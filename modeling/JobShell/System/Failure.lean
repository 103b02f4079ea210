import JobShell.System.Errno
import JobShell.Text.Bytes

/-!
# JobShell.System.Failure — why an operation on files or processes failed

Most failures come from the kernel with a number. The others are found before the kernel is asked
(a NUL byte in a name, no home directory) or come from a reader.
-/

namespace JobShell

/-- Why an operation failed. -/
inductive Failure where
  /-- A system call failed with this number. -/
  | os (errno : Errno)
  /-- A text that has to end at its NUL byte has one inside, at this byte. -/
  | nulByte (position : Nat)
  /-- The name of a file to open contains a NUL byte. -/
  | nulInFileName
  /-- There is no home directory to go to. -/
  | homeUnset
  /-- A line that was read is not valid UTF-8. -/
  | notText
  /-- A reader found its data invalid. -/
  | invalidData (text : String)
  /-- Any other reason, in the words of whoever found it. -/
  | other (text : String)
deriving DecidableEq, Repr

namespace Failure

/-- The reason in words. -/
def message : Failure → String
  | .os errno => errno.message
  | .nulByte position => "nul byte at position " ++ Text.Decimal.text position
  | .nulInFileName => "file name contained an unexpected NUL byte"
  | .homeUnset => "HOME not set"
  | .notText => "stream did not contain valid UTF-8"
  | .invalidData text => text
  | .other text => text

/-- The kernel's number, if the failure came from the kernel. -/
def errno? : Failure → Option Errno
  | .os errno => some errno
  | _ => none

/-- The result of a system call that signals a failure by returning `-1`, for a given number left
behind. A result that the return type cannot hold as `-1` is never a failure. -/
def ofReturn (value : Int) (errno : Errno) : Except Failure Int :=
  if value = -1 then .error (.os errno) else .ok value

end Failure

/-- The bytes with a NUL byte at their end, as the kernel takes names and arguments; it fails at
the first NUL byte inside. -/
def nulTerminated (bytes : Bytes) : Except Failure Bytes :=
  match bytes.findIdx? (· == 0) with
  | some position => .error (.nulByte position)
  | none => .ok (bytes ++ [0])

end JobShell
