import JobShell.Child.Status
import JobShell.System.Pid
import JobShell.Text.Bytes

/-!
# JobShell.Child.Notice — the line that reports a background job

A notice is laid out inside a signal handler, where nothing may be allocated and nothing may fail.
So it is built in a buffer of 96 bytes, with digits produced from the right in one of 20 bytes.
Both buffers are written by index here, and `none` stands for an index outside of them; what is
pushed beyond the capacity is cut off.

`Notice.text` is the same report made by ordinary concatenation.
-/

namespace JobShell

/-- The size of a notice's buffer. -/
def noticeCapacity : Nat := 96

/-- The size of the buffer for digits: 19 digits and a sign. -/
def digitCapacity : Nat := 20

/-- Writes bytes into a buffer from an index on, if they fit. -/
def overwrite (cells : Bytes) (start : Nat) (bytes : Bytes) : Option Bytes :=
  if start + bytes.length ≤ cells.length then
    some (cells.take start ++ bytes ++ cells.drop (start + bytes.length))
  else none

/-- A buffer of fixed size, filled from the left. -/
structure Notice where
  cells : Bytes
  length : Nat
deriving DecidableEq, Repr

namespace Notice

/-- The notice without contents. -/
def empty : Notice := ⟨List.replicate noticeCapacity 0, 0⟩

/-- What has been written. -/
def bytes (notice : Notice) : Bytes :=
  notice.cells.take notice.length

/-- Adds bytes, as many as there is room for. -/
def push (notice : Notice) (bytes : Bytes) : Option Notice := do
  -- cut off rather than fail: the longest notice fits comfortably
  let count := min bytes.length (noticeCapacity - notice.length)
  let cells ← overwrite notice.cells notice.length (bytes.take count)
  return ⟨cells, notice.length + count⟩

/-- Writes the digits of a number leftwards, ending before a position, and answers where the first
one stands. -/
def pushDigits (cells : Bytes) (position magnitude : Nat) : Option (Bytes × Nat) :=
  match position with
  | 0 => none
  | before + 1 => do
    let cells ← overwrite cells before [48 + (magnitude % 10).toUInt8]
    if magnitude / 10 = 0 then return (cells, before)
    else pushDigits cells before (magnitude / 10)

/-- The shortest decimal form of a number, laid out from the right. -/
def layOut (value : Int64) : Option Bytes := do
  let (cells, position) ←
    pushDigits (List.replicate digitCapacity 0) digitCapacity value.toInt.natAbs
  if value < 0 then
    match position with
    | 0 => none
    | before + 1 =>
      let cells ← overwrite cells before [45]
      return cells.drop before
  else return cells.drop position

/-- Adds a number in its shortest decimal form. -/
def pushInt (notice : Notice) (value : Int64) : Option Notice := do
  notice.push (← layOut value)

/-- The notice for a child that ended. -/
def build (pid : Pid) (termination : Termination) : Option Notice := do
  let notice ← empty.push (Text.utf8 "\nbackground pid ")
  let notice ← notice.pushInt pid.number.toInt64
  let notice ← notice.push (Text.utf8 " is done: ")
  let notice ←
    match termination with
    | .exited code => do (← notice.push (Text.utf8 "exit value ")).pushInt code.toInt64
    | .killed signal => do
      (← notice.push (Text.utf8 "terminated by signal ")).pushInt signal.number.toInt64
  notice.push (Text.utf8 "\n")

/-- The bytes of the notice for a child that ended. -/
def of (pid : Pid) (termination : Termination) : Bytes :=
  (build pid termination).elim [] bytes

/-- The report of a child that ended, as a text. -/
def text (pid : Pid) (termination : Termination) : String :=
  "\nbackground pid " ++ pid.text ++ " is done: " ++ termination.text ++ "\n"

end Notice

end JobShell
