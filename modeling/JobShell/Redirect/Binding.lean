import JobShell.Command.Basic
import JobShell.System.Host

/-!
# JobShell.Redirect.Binding — where a child's standard streams lead

The files of a command's redirections are opened by the shell, output first, and bound by the
child. A file that cannot be opened does not stop the launch: its message travels to the child,
which writes it to the shell's own standard output before any stream has been touched.

The shell may have been started with standard streams closed. Then an opened file can itself stand
behind number 0 or 1; it must stay open on exec if it is on its stream, and move otherwise.
-/

namespace JobShell

/-- A standard stream that can be redirected. -/
inductive Stream where
  | input
  | output
deriving DecidableEq, Repr

namespace Stream

/-- The word for a stream in messages. -/
def word : Stream → String
  | .input => "input"
  | .output => "output"

/-- The number of a stream. -/
def number : Stream → Nat
  | .input => Descriptors.standardInput
  | .output => Descriptors.standardOutput

/-- The message for a file that cannot be opened. -/
def openFailure (stream : Stream) (path : String) : String :=
  "smallsh: cannot open " ++ path ++ " for " ++ stream.word ++ "\n"

/-- The message for a stream that cannot be bound to its file. -/
def bindFailure (stream : Stream) : String :=
  "smallsh: cannot redirect standard " ++ stream.word ++ "\n"

end Stream

/-- Where one standard stream of a child leads. -/
inductive Binding where
  /-- To the shell's own. -/
  | inherit
  /-- To the file opened under this number. -/
  | opened (number : Nat)
  /-- Nowhere: the file could not be opened. -/
  | failed (message : String)
deriving DecidableEq, Repr

/-- Where the standard streams of a child lead. -/
structure Redirections where
  input : Binding
  output : Binding
deriving DecidableEq, Repr

namespace Binding

/-- The message of a file that could not be opened. -/
def failure? : Binding → Option String
  | .failed message => some message
  | _ => none

variable {File : Type}

/-- Binds a stream. The number that the file was opened under is freed unless it is the stream's. -/
def install (binding : Binding) (stream : Stream) (table : Descriptors File) :
    Except String (Descriptors File) :=
  match binding with
  | .opened number =>
    if number = stream.number then
      -- the stream was closed in the shell, and the file took its number
      (table.clearCloseOnExec number).mapError fun _ => stream.bindFailure
    else do
      let bound ← (table.duplicate number stream.number).mapError fun _ => stream.bindFailure
      -- the duplicate is all that the child needs
      return bound.set number none
  | _ => .ok table

/-- Closes the file in the shell. -/
def release (binding : Binding) (table : Descriptors File) : Descriptors File :=
  match binding with
  | .opened number => table.set number none
  | _ => table

end Binding

namespace Redirections

variable {File : Type}

/-- The message of the file that could not be opened, the output file's first. -/
def failure? (redirections : Redirections) : Option String :=
  redirections.output.failure?.or redirections.input.failure?

/-- Binds both streams of the process that the table belongs to, or answers a message. A file that
could not be opened shows before anything is changed. -/
def install (redirections : Redirections) (table : Descriptors File) :
    Except String Unit × Descriptors File :=
  match redirections.failure? with
  | some message => (.error message, table)
  | none =>
    match redirections.output.install .output table with
    | .error message => (.error message, table)
    | .ok bound =>
      match redirections.input.install .input bound with
      | .error message => (.error message, bound)
      | .ok both => (.ok (), both)

/-- Closes the opened files in the shell. -/
def release (redirections : Redirections) (table : Descriptors File) : Descriptors File :=
  redirections.output.release (redirections.input.release table)

end Redirections

variable {World File Place : Type}

/-- Opens the file of a redirection under the lowest free number. -/
def Host.openFile (host : Host World File Place) (stream : Stream) (path : String) (place : Place)
    (table : Descriptors File) (world : World) :
    Except Failure (Nat × Descriptors File) × World :=
  let bytes := Text.utf8 path
  if bytes.contains 0 then (.error .nulInFileName, world)
  -- a number is taken before the file is looked at, so nothing is created without one
  else if table.lowestFree?.isNone then (.error (.os .tooManyOpen), world)
  else
    let (opened, world) :=
      match stream with
      | .input => host.openInput place bytes world
      | .output => host.openOutput place bytes world
    match opened with
    | .error errno => (.error (.os errno), world)
    | .ok file =>
      match table.insert? file with
      | some placed => (.ok placed, world)
      | none => (.error (.os .tooManyOpen), world)

/-- The binding of a stream to the file of a redirection, if there is one. -/
def Host.bind (host : Host World File Place) (stream : Stream) (path : Option String)
    (place : Place) (table : Descriptors File) (world : World) :
    Binding × Descriptors File × World :=
  match path with
  | none => (.inherit, table, world)
  | some path =>
    match host.openFile stream path place table world with
    | (.ok (number, table), world) => (.opened number, table, world)
    | (.error _, world) => (.failed (stream.openFailure path), table, world)

/-- The file that a command reads from: a background job never shares the shell's input. -/
def Command.inputPath (command : Command) : Mode → Option String
  | .foreground => command.input
  | .background => some (command.input.getD nullDevice)

/-- Opens the files of a command's redirections, the output file first. -/
def Host.redirect (host : Host World File Place) (command : Command) (mode : Mode) (place : Place)
    (table : Descriptors File) (world : World) : Redirections × Descriptors File × World :=
  let (output, table, world) := host.bind .output command.output place table world
  let (input, table, world) := host.bind .input (command.inputPath mode) place table world
  (⟨input, output⟩, table, world)

end JobShell
