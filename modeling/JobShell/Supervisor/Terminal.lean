import JobShell.Shell.Options
import JobShell.Supervisor.Services

/-!
# JobShell.Supervisor.Terminal — a shell that reads its own standard input

The shell reads its lines from descriptor 0, a buffer at a time. Its children read from the same
place, so they find what lies behind the shell's buffer. A descriptor that cannot be read from
counts as an input without lines.
-/

namespace JobShell

/-- How many bytes one read asks for. -/
def bufferSize : Nat := 8192

/-- The name under which the shell speaks about itself. -/
def shellName : String := "smallsh"

namespace Supervisor

variable {World File Place : Type}

/-- Reads the next bytes of standard input. -/
def refill (host : Host World File Place) (shell : Supervisor World File Place) :
    Except Errno Bytes × Supervisor World File Place :=
  match shell.attributes.descriptors.file? Descriptors.standardInput with
  | none => (.ok [], shell)
  | some file =>
    match host.read file bufferSize shell.world with
    | (.error errno, world) =>
      (if errno = .badDescriptor then .ok [] else .error errno, { shell with world })
    | (.ok bytes, world) => (.ok bytes, { shell with world })

/-- Takes the bytes of the next line from a buffer and what is read behind it, in at most so many
reads. -/
def takeLine (host : Host World File Place) :
    (reads : Nat) → (known buffer : Bytes) → Supervisor World File Place →
      Except Failure Bytes × Bytes × Supervisor World File Place
  | 0, known, buffer, shell => (.ok known, buffer, shell)
  | reads + 1, known, buffer, shell =>
    match Text.splitLine? buffer with
    | some (line, rest) => (.ok (known ++ line), rest, shell)
    | none =>
      match shell.refill host with
      | (.error errno, shell) => (.error (.os errno), [], shell)
      | (.ok [], shell) => (.ok (known ++ buffer), [], shell)
      | (.ok bytes, shell) => takeLine host reads (known ++ buffer) bytes shell

/-- Reads a line of standard input, with what an earlier read left in the buffer. -/
def readLine (host : Host World File Place) (patience : Nat) :
    LineReader Bytes (Supervisor World File Place) :=
  fun buffer shell =>
    let (line, buffer, shell) := takeLine host patience [] buffer shell
    (line.bind Text.line?, buffer, shell)

/-- Reads and carries out lines until the input ends or a line asks to exit. -/
def interact (host : Host World File Place) (patience : Nat) (home : Option Bytes)
    (shell : Supervisor World File Place) :
    Except ShellError Unit × Supervisor World File Place :=
  match shell.prepare with
  | .error error => (.error error, shell)
  | .ok ready =>
    let (result, shell) :=
      ({ state := ready } : Shell _).run (services host patience home) (readLine host patience)
        patience []
    (result.mapError (.io none), shell.state)

/-- Does what the command line of the shell asks for and answers the exit code. -/
def main (host : Host World File Place) (patience : Nat) (home : Option Bytes)
    (arguments : List String) (shell : Supervisor World File Place) :
    Nat × Supervisor World File Place :=
  let say (text : String) := shell.put host Descriptors.standardOutput (text ++ "\n")
  let failed (text : String) (shell : Supervisor World File Place) :=
    shell.put host Descriptors.standardError (shellName ++ ": " ++ text ++ "\n")
  match Action.ofArguments arguments with
  | .error error => (1, failed (error.message ++ "\n" ++ Help.usage) shell)
  | .ok .help => (0, say Help.message)
  | .ok .version => (0, say (shellName ++ " " ++ Help.version))
  | .ok .run =>
    match shell.interact host patience home with
    | (.ok (), shell) => (0, shell)
    | (.error error, shell) => (1, failed error.message shell)

end Supervisor

end JobShell
