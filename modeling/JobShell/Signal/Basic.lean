import JobShell.Text.Decimal

/-!
# JobShell.Signal.Basic — signals and their names
-/

namespace JobShell

/-- A signal, by number. -/
structure Signal where
  number : Int32
deriving DecidableEq, Repr

namespace Signal

/-- The terminal's interrupt key. -/
def interrupt : Signal := ⟨2⟩

/-- Ends a process without asking it. -/
def kill : Signal := ⟨9⟩

/-- A write to a pipe that nobody reads from. -/
def brokenPipe : Signal := ⟨13⟩

/-- Asks a process to end. -/
def terminate : Signal := ⟨15⟩

/-- A child has ended. -/
def child : Signal := ⟨17⟩

/-- Stops a process without asking it. -/
def stop : Signal := ⟨19⟩

/-- The names of the signals that diagnostics mention by name. -/
def name? (signal : Signal) : Option String :=
  match signal.number.toInt with
  | 1 => some "SIGHUP"
  | 2 => some "SIGINT"
  | 3 => some "SIGQUIT"
  | 9 => some "SIGKILL"
  | 10 => some "SIGUSR1"
  | 12 => some "SIGUSR2"
  | 13 => some "SIGPIPE"
  | 14 => some "SIGALRM"
  | 15 => some "SIGTERM"
  | 17 => some "SIGCHLD"
  | 18 => some "SIGCONT"
  | 19 => some "SIGSTOP"
  | 20 => some "SIGTSTP"
  | 21 => some "SIGTTIN"
  | 22 => some "SIGTTOU"
  | _ => none

/-- The short names of the signals from 1 on, as commands take them. -/
def shortNames : List String :=
  ["HUP", "INT", "QUIT", "ILL", "TRAP", "ABRT", "BUS", "FPE", "KILL", "USR1", "SEGV", "USR2",
    "PIPE", "ALRM", "TERM", "STKFLT", "CHLD", "CONT", "STOP", "TSTP", "TTIN", "TTOU", "URG", "XCPU",
    "XFSZ", "VTALRM", "PROF", "WINCH", "IO", "PWR", "SYS"]

/-- The signal of a short name. -/
def ofShortName? (name : String) : Option Signal :=
  (shortNames.idxOf? name).map fun i => ⟨Int32.ofNat (i + 1)⟩

/-- Used up its share of work. -/
def workLimit : Signal := ⟨24⟩

/-- Whether the default action ends the process. The others are not noticed, stop it or let it go
on. -/
def isFatal (signal : Signal) : Bool :=
  !([0, 17, 18, 19, 20, 21, 22, 23, 28].contains signal.number.toInt)

/-- The number of a signal in decimal. -/
def numeral (signal : Signal) : String :=
  Text.Decimal.text signal.number.toInt

/-- The name of a signal, or its number in words if it has none. -/
def describe (signal : Signal) : String :=
  signal.name?.getD ("unknown signal #" ++ signal.numeral)

/-- What has happened to a process that the signal ended, for the signals from 1 on. -/
def summaries : List String :=
  ["Hangup", "Interrupt", "Quit", "Illegal instruction", "Trace/breakpoint trap", "Aborted",
    "Bus error", "Floating point exception", "Killed", "User defined signal 1",
    "Segmentation fault", "User defined signal 2", "Broken pipe", "Alarm clock", "Terminated",
    "Stack fault", "Child exited", "Continued", "Stopped (signal)", "Stopped",
    "Stopped (tty input)", "Stopped (tty output)", "Urgent I/O condition",
    "CPU time limit exceeded", "File size limit exceeded", "Virtual timer expired",
    "Profiling timer expired", "Window changed", "I/O possible", "Power failure",
    "Bad system call"]

/-- What has happened to a process that the signal ended. -/
def summary (signal : Signal) : String :=
  let number := signal.number.toInt
  match summaries[(number - 1).toNat]? with
  | some text => text
  | none =>
    if 34 ≤ number && number ≤ 64 then "Real-time signal " ++ Text.Decimal.text (number - 34)
    else "Unknown signal " ++ Text.Decimal.text number

/-- Whether the number lies in the range that a signal set has room for. -/
def inRange (signal : Signal) : Bool :=
  1 ≤ signal.number.toInt && signal.number.toInt ≤ 64

/-- Whether a program may name the signal. Numbers 32 and 33 are kept for the thread library. -/
def isNameable (signal : Signal) : Bool :=
  signal.inRange && signal.number.toInt != 32 && signal.number.toInt != 33

end Signal

end JobShell
