import JobShell.Signal.Basic
import JobShell.System.Errno

/-!
# JobShell.Signal.Set — sets of signals and the mask of a process

A set has one bit for each of the numbers 1 to 64. Blocking, unblocking and replacing change the
mask of a process and answer the mask before; the kernel never masks the two signals that cannot
be refused, so a mask is never more than what was asked for without them.
-/

namespace JobShell

/-- A set of signals: bit `n - 1` stands for signal `n`. -/
structure SignalSet where
  bits : BitVec 64
deriving DecidableEq, Repr

namespace SignalSet

/-- The set without members. -/
def empty : SignalSet := ⟨0⟩

/-- Whether a number is a member; numbers outside 1 to 64 never are. -/
def has (set : SignalSet) (signal : Signal) : Bool :=
  signal.inRange && set.bits.getLsbD (signal.number.toInt.toNat - 1)

/-- The set with the one member, for a number in range. -/
def bit (signal : Signal) : SignalSet :=
  ⟨1#64 <<< (signal.number.toInt.toNat - 1)⟩

instance : Union SignalSet := ⟨fun a b => ⟨a.bits ||| b.bits⟩⟩

instance : SDiff SignalSet := ⟨fun a b => ⟨a.bits &&& ~~~b.bits⟩⟩

/-- All signals that a program may name. -/
def full : SignalSet :=
  ⟨BitVec.allOnes 64⟩ \ (bit ⟨32⟩ ∪ bit ⟨33⟩)

/-- The set with one signal, which has to be one that a program may name. -/
def single (signal : Signal) : Except Errno SignalSet :=
  if signal.isNameable then .ok (bit signal) else .error .invalidArgument

/-- Whether a signal is a member; the number has to be in range. -/
def contains (set : SignalSet) (signal : Signal) : Except Errno Bool :=
  if signal.inRange then .ok (set.has signal) else .error .invalidArgument

/-- The signals that a process cannot refuse. -/
def unmaskable : SignalSet :=
  bit .kill ∪ bit .stop

/-- The numbers of the members, in ascending order. -/
def members (set : SignalSet) : List Nat :=
  (List.range 64).filterMap fun i => if set.bits.getLsbD i then some (i + 1) else none

end SignalSet

/-- How a set changes the mask of a process. -/
inductive MaskChange where
  /-- Adds the set to the mask. -/
  | block
  /-- Takes the set out of the mask. -/
  | unblock
  /-- Makes the set the mask. -/
  | replace
deriving DecidableEq, Repr

/-- The mask after a change by a set. -/
def MaskChange.apply (change : MaskChange) (set mask : SignalSet) : SignalSet :=
  let asked :=
    match change with
    | .block => mask ∪ set
    | .unblock => mask \ set
    | .replace => set
  asked \ SignalSet.unmaskable

end JobShell
