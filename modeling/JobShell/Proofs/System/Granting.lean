import JobShell.System.Host
import JobShell.Redirect.Binding

/-!
# JobShell.Proofs.System.Granting — a system that grants every call

Statements about every host are tried on this one. Its state is the number of the next process, and
an opened file is known by its stream and its path.
-/

namespace JobShell

/-- A system on which every call succeeds. -/
def Host.granting : Host Nat (Stream × Bytes) Unit where
  openInput _ path world := (.ok (.input, path), world)
  openOutput _ path world := (.ok (.output, path), world)
  enter _ _ _ := .ok ()
  exec _ _ _ := .ok ()
  spawn _ world := (.ok ⟨Int32.ofNat world⟩, world + 1)
  read _ _ world := (.ok [], world)
  writeResults _ _ := []
  write _ _ world := world
  next world := (.alarm, world)

/-- The table of a shell that was started with only these streams open and few numbers to give
out. -/
def Descriptors.startedWith (streams : List Nat) : Descriptors (Stream × Bytes) where
  get number := if number ∈ streams then some ⟨(.input, []), false⟩ else none
  limit := 4

end JobShell
