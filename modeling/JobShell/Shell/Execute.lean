import JobShell.Command.Builtin
import JobShell.Log.LineWriter
import JobShell.Shell.Error
import JobShell.Shell.LastStatus

/-!
# JobShell.Shell.Execute — carrying out one line

A line is ignored, answered by the shell itself, or handed over as a command: to the background if
it says so, to the foreground otherwise. Handing over, changing the directory and writing are
`Services` over a state that the shell does not look into.

The last status belongs to the shell alone. Only commands that are handed over change it.
-/

namespace JobShell

/-- What the shell needs to carry out a line. -/
structure Services (State : Type) where
  /-- Starts a command without waiting for it. -/
  launchBackground : Command → State → Except ShellError Pid × State
  /-- Runs a command and waits for it. -/
  runForeground : Command → State → Except ShellError Outcome × State
  /-- The home directory, if there is one. -/
  home : Option Bytes
  /-- Changes the working directory. -/
  changeDirectory : Bytes → State → Except Errno Unit × State
  /-- Writes to standard output. -/
  say : String → State → State
  /-- Writes to standard error. -/
  complain : String → State → State

/-- Whether the shell reads another line. -/
inductive Flow where
  | proceed
  | exit
deriving DecidableEq, Repr

/-- A shell between two lines. -/
structure Shell (State : Type) where
  last : LastStatus := .initial
  state : State

namespace Shell

variable {State : Type}

/-- Writes one line to standard output. -/
def sayLine (services : Services State) (line : String) (shell : Shell State) : Shell State :=
  { shell with state := services.say (line ++ "\n") shell.state }

/-- Shows the user what went wrong. -/
def tell (services : Services State) (message : String) (shell : Shell State) : Shell State :=
  { shell with state := services.complain (Log.userLines message) shell.state }

/-- Shows the user why a command could not be run, and keeps it as the last status. -/
def fail (services : Services State) (error : ShellError) (shell : Shell State) : Shell State :=
  { shell.tell services error.message with last := .ofFailure error.message }

/-- Changes the working directory to a target, or to the home directory. -/
def changeDirectory (services : Services State) (target : Option String) (shell : Shell State) :
    Shell State :=
  let failed (error : ShellError) (shell : Shell State) : Shell State :=
    shell.tell services ("cd: " ++ error.message)
  match (target.map Text.utf8).or services.home with
  | none => failed (.io none .homeUnset) shell
  | some directory =>
    match nulTerminated directory with
    | .error failure => failed (.io none failure) shell
    | .ok _ =>
      match services.changeDirectory directory shell.state with
      | (.ok (), state) => { shell with state }
      | (.error errno, state) => failed (.io (some directory) (.os errno)) { shell with state }

/-- Starts a command in the background. -/
def background (services : Services State) (command : Command) (shell : Shell State) :
    Shell State :=
  match services.launchBackground command shell.state with
  | (.ok pid, state) =>
    { ({ shell with state } : Shell State).sayLine services ("background pid " ++ pid.text) with
      last := .initial }
  | (.error error, state) => ({ shell with state } : Shell State).fail services error

/-- Runs a command in the foreground. -/
def foreground (services : Services State) (command : Command) (shell : Shell State) :
    Shell State :=
  match services.runForeground command shell.state with
  | (.ok outcome, state) =>
    let shell : Shell State := { shell with state }
    let shell :=
      match outcome.message with
      | some message => shell.sayLine services message
      | none => shell
    { shell with last := .ofOutcome outcome }
  | (.error error, state) => ({ shell with state } : Shell State).fail services error

/-- Answers a line that names a built-in. -/
def answer (services : Services State) (builtin : Builtin) (shell : Shell State) :
    Flow × Shell State :=
  match builtin with
  | .exit => (.exit, shell)
  | .changeDirectory target => (.proceed, shell.changeDirectory services target)
  | .status => (.proceed, shell.sayLine services shell.last.report)

/-- Carries out one line. -/
def execute (services : Services State) (line : String) (shell : Shell State) :
    Flow × Shell State :=
  let command := Command.read line
  -- a line such as `> file` has words but no command
  if isIgnored line || command.isEmpty then (.proceed, shell)
  else
    match Builtin.ofCommand? command with
    | some builtin => shell.answer services builtin
    | none =>
      if command.background then (.proceed, shell.background services command)
      else (.proceed, shell.foreground services command)

end Shell

end JobShell
