import JobShell.Signal.Basic
import JobShell.Text.Quoted

/-!
# JobShell.Child.Status — how a child ended

The kernel packs the end of a child into one word: the low seven bits are zero after an exit, whose
code is in the next byte, all ones while the child is only stopped or has gone on, and otherwise
the number of the signal that killed it. `WaitStatus` is the word, `Termination` what it means.
-/

namespace JobShell

/-- How a child process ended. -/
inductive Termination where
  /-- It exited with a code. -/
  | exited (code : Int32)
  /-- A signal killed it. -/
  | killed (signal : Signal)
deriving DecidableEq, Repr

namespace Termination

/-- How the child ended, in words. -/
def text : Termination → String
  | .exited code => "exit value " ++ Text.Decimal.text code.toInt
  | .killed signal => "terminated by signal " ++ signal.numeral

/-- Whether the child exited with code zero. -/
def isSuccess : Termination → Bool
  | .exited code => code == 0
  | .killed _ => false

end Termination

/-- The status word of a child. -/
structure WaitStatus where
  word : UInt32
deriving DecidableEq, Repr

namespace WaitStatus

/-- The low seven bits. -/
def low (status : WaitStatus) : UInt32 :=
  status.word &&& 0x7f

/-- The code that the child exited with, if it exited. -/
def exitCode? (status : WaitStatus) : Option Int32 :=
  if status.low = 0 then some ((status.word >>> 8) &&& 0xff).toInt32 else none

/-- The signal that killed the child, if one did. Seven bits that are all ones become negative when
one is added in eight signed bits, and zero becomes one, so the comparison leaves both out. -/
def signal? (status : WaitStatus) : Option Signal :=
  if 2 ≤ (status.low + 1).toUInt8.toInt8 then some ⟨status.low.toInt32⟩ else none

/-- How the child ended, unless it is only stopped or has gone on. -/
def termination? (status : WaitStatus) : Option Termination :=
  match status.exitCode? with
  | some code => some (.exited code)
  | none => status.signal?.map .killed

/-- The status for diagnostics: the code, the signal by name or number, or the raw word. -/
def describe (status : WaitStatus) : String :=
  match status.exitCode?, status.signal? with
  | some code, _ => "ExitStatus(" ++ Text.Decimal.text code.toInt ++ ")"
  | none, some signal => "TermSignal(" ++ signal.name?.getD signal.numeral ++ ")"
  | none, none => "WaitStatus(0x" ++ String.ofList (Text.hex status.word.toNat) ++ ")"

/-- The word of a child that exited; the kernel keeps the low byte of its code. -/
def ofExit (code : Int32) : WaitStatus :=
  ⟨(code.toUInt32 &&& 0xff) <<< 8⟩

/-- The word of a child that a signal killed. -/
def ofSignal (signal : Signal) : WaitStatus :=
  ⟨signal.number.toUInt32 &&& 0x7f⟩

end WaitStatus

/-- The result of a foreground command: how it ended, and a message to show at once and to report
later, which it has when a signal killed it. -/
structure Outcome where
  status : Termination
  message : Option String
deriving DecidableEq, Repr

/-- The outcome of a command that ended in a given way. -/
def Outcome.ofTermination (termination : Termination) : Outcome where
  status := termination
  message :=
    match termination with
    | .killed _ => some termination.text
    | .exited _ => none

end JobShell
