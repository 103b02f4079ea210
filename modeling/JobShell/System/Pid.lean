import JobShell.Text.Decimal

/-!
# JobShell.System.Pid — process numbers
-/

namespace JobShell

/-- The number of a process. -/
structure Pid where
  number : Int32
deriving DecidableEq, Repr, Hashable

namespace Pid

/-- The number as it appears in messages. -/
def text (pid : Pid) : String :=
  Text.Decimal.text pid.number.toInt

/-- The order of process numbers. -/
def order (pid other : Pid) : Ordering :=
  compare pid.number.toInt other.number.toInt

/-- The number that stands for any child when waiting. -/
def anyChild : Pid := ⟨-1⟩

end Pid

end JobShell
