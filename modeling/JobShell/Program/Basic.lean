import JobShell.Machine.Basic
import JobShell.Program.FileName
import JobShell.Signal.Basic
import JobShell.Text.Lines
import JobShell.Text.Numeral

/-!
# JobShell.Program.Basic — what programs on the machine are made of

A program works on the machine's storage with the descriptors and the place that its process was
given, and ends with a code or by a signal. `Task` is such work; the operations here are the ones
that most programs are put together from, among them the complaints that programs share.
-/

namespace JobShell

/-- Work on the storage of a machine, which a signal may cut short. -/
abbrev Task (α : Type) := ExceptT Signal (StateM Machine.Storage) α

/-- Work that no signal cuts short. -/
def Task.ofStorage {α : Type} (work : Machine.Storage → α × Machine.Storage) : Task α :=
  fun storage =>
    let (result, storage) := work storage
    (.ok result, storage)

/-- What a program was started with. -/
structure Job where
  /-- The program's name and its arguments. -/
  arguments : List Bytes
  attributes : Machine.Attributes

namespace Job

/-- The arguments after the program's name. -/
def operands (job : Job) : List Bytes :=
  job.arguments.tail

/-- The directory that relative paths start from. -/
def directory (job : Job) : Inode :=
  job.attributes.place.directory

/-- Writes bytes to a descriptor, which may fail. A write to a pipe that nobody reads from kills,
unless the signal for that is ignored. -/
def write (job : Job) (descriptor : Nat) (bytes : Bytes) : Task (Except Errno Unit) := do
  match job.attributes.descriptors.file? descriptor with
  | none => return if bytes.isEmpty then .ok () else .error .badDescriptor
  | some handle =>
    let delivery := deliver .success ((← get).writeResults handle) bytes
    modify (·.write handle delivery.delivered)
    if delivery.errno = .brokenPipe && job.attributes.dispositions.get .brokenPipe = .default then
      throw .brokenPipe
    return if delivery.errno = .success then .ok () else .error delivery.errno

/-- Writes a complaint to standard error, with the program's name in front. -/
def complain (job : Job) (text : String) : Task Unit := do
  let line := job.arguments.headD [] ++ Text.utf8 (": " ++ text ++ "\n")
  let _ ← job.write Descriptors.standardError line

/-- Writes a complaint about a failed call to standard error: what it was about comes in front. -/
def complainOf (job : Job) (before : String) (path : Bytes) (after : String) : Task Unit := do
  let line :=
    job.arguments.headD [] ++ Text.utf8 (": " ++ before) ++ path ++ Text.utf8 (after ++ "\n")
  let _ ← job.write Descriptors.standardError line

/-- Complains that something could not be done with a path. -/
def complainAbout (job : Job) (attempt : String) (path : Bytes) (errno : Errno) : Task Unit :=
  job.complainOf (attempt ++ " ") (Program.FileName.always path) (": " ++ errno.description)

/-- Complains about a path. -/
def complainPlainly (job : Job) (path : Bytes) (errno : Errno) : Task Unit :=
  job.complainOf "" (Program.FileName.asNeeded path) (": " ++ errno.description)

/-- Ends a program with a complaint and a code. -/
def refuse (job : Job) (text : String) (code : Nat := 1) : Task Nat := do
  job.complain text
  return code

/-- Ends a program that was called in a way it does not understand, with a hint behind the
complaint. -/
def misused (job : Job) (before : String) (operand : Bytes := []) (after : String := "")
    (code : Nat := 1) : Task Nat := do
  let name := job.arguments.headD []
  job.complainOf before operand after
  let hint := Text.utf8 "Try '" ++ name ++ Text.utf8 " --help' for more information.\n"
  let _ ← job.write Descriptors.standardError hint
  return code

/-- Writes bytes to standard output and answers the code of a program that did nothing else. -/
def say (job : Job) (bytes : Bytes) (failure : Nat := 1) : Task Nat := do
  match ← job.write Descriptors.standardOutput bytes with
  | .ok () => return 0
  | .error errno => job.refuse ("write error: " ++ errno.description) failure

/-- Reads what is left of standard input. -/
def readInput (job : Job) : Task (Except Errno Bytes) :=
  match job.attributes.descriptors.file? Descriptors.standardInput with
  | none => return .error .badDescriptor
  | some handle => .ofStorage (·.readAll handle)

/-- The operand that stands for standard input. -/
def dash : Bytes := [45]

/-- Opens a file; a dash stands for standard input. -/
def openFile (job : Job) (path : Bytes) : Task (Except Errno Handle) :=
  if path = dash then
    match job.attributes.descriptors.file? Descriptors.standardInput with
    | none => return .error .badDescriptor
    | some handle => return .ok handle
  else .ofStorage (·.openInput job.attributes.place path)

/-- Reads a file; a dash stands for standard input. -/
def readFile (job : Job) (path : Bytes) : Task (Except Errno Bytes) := do
  match ← job.openFile path with
  | .error errno => return .error errno
  | .ok handle => Task.ofStorage (·.readAll handle)

/-- The paths that a program reads: its operands, or standard input if there are none. -/
def sources (operands : List Bytes) : List Bytes :=
  if operands.isEmpty then [dash] else operands

/-- Changes the tree; if an attempt at a path is refused, that is complained about and the code
is 1. -/
def edit (job : Job) (attempt : String) (path : Bytes)
    (change : FileTree → Except Errno FileTree) : Task Nat := do
  match change (← get).tree with
  | .ok tree =>
    modify ({ · with tree })
    return 0
  | .error errno =>
    job.complainAbout attempt path errno
    return 1

/-- Does something for each of several operands; the code is the greatest of the codes. -/
def forEach (operands : List Bytes) (action : Bytes → Task Nat) : Task Nat :=
  operands.foldlM (fun code operand => do return max code (← action operand)) 0

end Job

end JobShell
