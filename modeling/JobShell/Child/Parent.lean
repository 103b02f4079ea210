import JobShell.Child.Reaper

/-!
# JobShell.Child.Parent — a process with children, as its own waits see it

`Parent` is what waiting, looking and the reaper share: the children that have not been collected,
the child that runs in the foreground, and what was written about the others. Its operations are
the ways in which a child can appear, end and be collected.
-/

namespace JobShell

/-- A process with children, while the signal for ended children is blocked. -/
structure Parent where
  children : Children := []
  /-- The child that the reaper leaves alone. -/
  foreground : Option Pid := none
  /-- What the reaper has written. -/
  output : Bytes := []
deriving DecidableEq, Repr

namespace Parent

/-- A child is created. -/
def create (parent : Parent) (pid : Pid) : Parent :=
  { parent with children := parent.children ++ [{ pid }] }

/-- A child ends. -/
def terminate (parent : Parent) (pid : Pid) (status : WaitStatus) : Parent :=
  { parent with children := parent.children.terminate pid status }

/-- Names the child that runs in the foreground. -/
def setForeground (parent : Parent) (pid : Option Pid) : Parent :=
  { parent with foreground := pid }

/-- One run of the reaper; answers how many children it collected. -/
def reap (parent : Parent) (conditions : ReapConditions := {}) : Nat × Parent :=
  let reaping := Reaper.run parent.foreground conditions .success parent.children
  (reaping.collected.length,
    { parent with
      children := reaping.children
      output := parent.output ++ reaping.delivered })

/-- Waits for a child; nothing while the call would block. -/
def wait (parent : Parent) (target : WaitTarget) (noHang : Bool) :
    Option (Except WaitError (Pid × WaitStatus)) × Parent :=
  let (reply, children) := parent.children.wait target noHang
  (reply, { parent with children })

end Parent

end JobShell
