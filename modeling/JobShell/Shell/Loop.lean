import JobShell.Shell.Execute
import JobShell.Shell.Help
import JobShell.Shell.Input

/-!
# JobShell.Shell.Loop — reading and carrying out lines

The shell writes its prompt, reads a line and carries it out, until the input ends or a line asks to
exit. A line that is not text is complained about and left out; any other failure of the input ends
the loop.

The input may share its state with the commands: a command may read on where the shell stopped. So
reading a line is a function of both the reader and the state.
-/

namespace JobShell

/-- Whether a failure is about the data only, so that reading can go on. -/
def Failure.isInvalidData : Failure → Bool
  | .notText | .invalidData _ => true
  | _ => false

/-- Reads a line, or none at the end of the input. -/
abbrev LineReader (Reader State : Type) :=
  Reader → State → Except Failure (Option String) × Reader × State

namespace Shell

variable {Reader State : Type}

/-- Reads and carries out at most so many lines. -/
def run (services : Services State) (readLine : LineReader Reader State) :
    (lines : Nat) → Reader → Shell State → Except Failure Unit × Shell State
  | 0, _, shell => (.ok (), shell)
  | lines + 1, reader, shell =>
    let prompted := services.say Help.prompt shell.state
    match readLine reader prompted with
    | (.ok none, _, state) => (.ok (), { shell with state })
    | (.ok (some line), reader, state) =>
      match ({ shell with state } : Shell State).execute services line with
      | (.exit, shell) => (.ok (), shell)
      | (.proceed, shell) => run services readLine lines reader shell
    | (.error failure, reader, state) =>
      let shell : Shell State := { shell with state }
      if failure.isInvalidData then
        run services readLine lines reader
          (shell.tell services ("ignoring line: " ++ failure.message))
      else (.error failure, shell)

/-- Reads and carries out the lines of a source that commands do not share. -/
def runPieces (services : Services State) (pieces : List Piece) (shell : Shell State) :
    Except Failure Unit × Shell State :=
  shell.run services (fun pieces state =>
    let (line, rest) := Piece.readLine pieces
    (line, rest, state)) (Piece.bound pieces) pieces

end Shell

end JobShell
