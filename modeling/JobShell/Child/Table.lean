import JobShell.Child.Status
import JobShell.System.Errno
import JobShell.System.Pid

/-!
# JobShell.Child.Table — the children of the shell that have not been collected

The kernel keeps a child until its parent has collected it. The table lists the children in the
order in which they were created; a child that has ended stays in its place with its status.

Two calls look at it. One collects a child and answers a process number, zero if none had ended
and the caller did not want to wait. The other only looks and leaves the number zero in the record
it fills in. `Children.wait` and `Children.peek` read both kinds of answer alike.
-/

namespace JobShell

/-- A child that has not been collected. -/
structure Child where
  pid : Pid
  /-- How it ended; nothing while it runs. -/
  status : Option WaitStatus := none
deriving DecidableEq, Repr

/-- Whether the child has ended. -/
def Child.hasEnded (child : Child) : Bool :=
  child.status.isSome

/-- The children that have not been collected, oldest first. -/
abbrev Children := List Child

/-- Whom to wait for. -/
inductive WaitTarget where
  | any
  | child (pid : Pid)
deriving DecidableEq, Repr

/-- Whether a child is one that is waited for. -/
def WaitTarget.includes : WaitTarget → Child → Bool
  | .any, _ => true
  | .child pid, candidate => candidate.pid == pid

/-- Why waiting brought no child. -/
inductive WaitError where
  /-- There are children to wait for, but none has ended yet. -/
  | notReady
  /-- The call failed. -/
  | failed (errno : Errno)
deriving DecidableEq, Repr

/-- Whether a signal handler ran during the call, so that it has to be repeated. -/
def WaitError.isInterrupted : WaitError → Bool
  | .failed errno => errno == .interrupted
  | .notReady => false

namespace Children

/-- Whether a child is waited for and has ended. -/
def isReady (target : WaitTarget) (child : Child) : Bool :=
  target.includes child && child.hasEnded

/-- What a collecting call answers. -/
inductive CollectReply where
  /-- A process number, zero for none, and the status word. -/
  | value (number : Int32) (status : WaitStatus)
  | failed (errno : Errno)
  /-- Nothing yet: the caller waits until a child ends. -/
  | blocks
deriving DecidableEq, Repr

/-- The collecting call, and the table after it. -/
def collectCall (target : WaitTarget) (noHang : Bool) (children : Children) :
    CollectReply × Children :=
  match children.find? (isReady target) with
  | some child =>
    (.value child.pid.number (child.status.getD ⟨0⟩), children.eraseP (isReady target))
  | none =>
    if children.any target.includes then
      (if noHang then .value 0 ⟨0⟩ else .blocks, children)
    else (.failed .noChild, children)

/-- The call that only looks: the process number that it leaves in the record. -/
def peekCall (children : Children) : Except Errno Int32 :=
  if children.isEmpty then .error .noChild
  else .ok ((children.find? Child.hasEnded).elim 0 (·.pid.number))

/-- Waits for a child; `none` while the call would block. -/
def wait (target : WaitTarget) (noHang : Bool) (children : Children) :
    Option (Except WaitError (Pid × WaitStatus)) × Children :=
  match collectCall target noHang children with
  | (.value number status, rest) =>
    (some (if number = 0 then .error .notReady else .ok (⟨number⟩, status)), rest)
  | (.failed errno, rest) => (some (.error (.failed errno)), rest)
  | (.blocks, rest) => (none, rest)

/-- The child that waiting for any child would bring next, left where it is. -/
def peek (children : Children) : Except WaitError Pid :=
  match peekCall children with
  | .error errno => .error (.failed errno)
  | .ok number => if number = 0 then .error .notReady else .ok ⟨number⟩

/-- Records that a child has ended; one that has ended already keeps its status. -/
def terminate (pid : Pid) (status : WaitStatus) (children : Children) : Children :=
  children.map fun child =>
    if child.pid = pid && !child.hasEnded then { child with status := some status } else child

/-- Collecting a child makes the table shorter. -/
theorem length_wait_lt {target : WaitTarget} {noHang : Bool} {children rest : Children}
    {pid : Pid} {status : WaitStatus}
    (h : wait target noHang children = (some (.ok (pid, status)), rest)) :
    rest.length < children.length := by
  unfold wait collectCall at h
  cases hf : children.find? (isReady target) with
  | none =>
    rw [hf] at h
    by_cases hany : children.any target.includes
    · cases noHang <;> simp_all
    · simp_all
  | some child =>
    rw [hf] at h
    simp only [Prod.mk.injEq] at h
    obtain ⟨_, rfl⟩ := h
    have hmem := List.mem_of_find?_eq_some hf
    have hready := List.find?_some hf
    have := List.length_eraseP_of_mem hmem hready
    have := List.length_pos_of_mem hmem
    omega

end Children

end JobShell
