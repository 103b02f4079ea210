import JobShell.Child.Table
import JobShell.System.Failure

/-!
# JobShell.Proofs.System.Calls — code that makes one system call after the other

A system call hands back a value. If the value says that the call failed, the reason is in a number
that the call has left behind, and the caller has to look there before anything else changes it.

* `Reply` is what a call hands back, and `Reply.leaves` the number that stands there afterwards.
* `Routine` is code as far as it makes calls: at every place it either makes a call or is done, and
  where it goes on depends on what it was handed back and on the number that it then finds.
* `Routine.after` lets such code make its calls. The code does not see who made up the replies.
* `readCollected` and `readLooked` are the readings of the two calls that look after children. By
  `readReply_leaves` they depend on nothing but the call.
-/

namespace JobShell

/-- What a system call hands back: a value, what it has put into a record of its caller, and the
number that it leaves behind if the value says that it failed. -/
structure Reply (Record : Type) where
  value : Int
  record : Record
  errno : Errno := .success

/-- The number that stands there after the call. -/
def Reply.leaves {Record : Type} (reply : Reply Record) (before : Errno) : Errno :=
  if reply.value = -1 then reply.errno else before

/-! ## Readings -/

/-- The reason for a failure is the number that the call itself left behind. -/
theorem Failure.ofReturn_leaves {Record : Type} (reply : Reply Record) (before : Errno) :
    ofReturn reply.value (reply.leaves before) = ofReturn reply.value reply.errno := by
  by_cases hfailed : reply.value = -1
  · rw [Reply.leaves, if_pos hfailed]
  · simp only [ofReturn, if_neg hfailed]

/-- How a call that looks after children is read: a failed one by the number that is found, and any
other one by its answer. -/
def readReply {Answer : Type} (value : Int) (found : Errno) (answer : Except WaitError Answer) :
    Except WaitError Answer :=
  match Failure.ofReturn value found with
  | .error _ => .error (.failed found)
  | .ok _ => answer

/-- How a collecting call is read, which hands back a process number, zero for none. -/
def readCollected (value : Int) (status : WaitStatus) (found : Errno) :
    Except WaitError (Pid × WaitStatus) :=
  readReply value found
    (if value = 0 then .error .notReady else .ok (⟨Int32.ofInt value⟩, status))

/-- How a looking call is read, which leaves the process number in a record. -/
def readLooked (value : Int) (number : Int32) (found : Errno) : Except WaitError Pid :=
  readReply value found (if number = 0 then .error .notReady else .ok ⟨number⟩)

/-- A reading right after a call depends on nothing but this call. -/
theorem readReply_leaves {Record Answer : Type} (reply : Reply Record) (before : Errno)
    (answer : Except WaitError Answer) :
    readReply reply.value (reply.leaves before) answer =
      readReply reply.value reply.errno answer := by
  by_cases hfailed : reply.value = -1
  · rw [Reply.leaves, if_pos hfailed]
  · simp only [readReply, Failure.ofReturn, if_neg hfailed]

/-! ## Routines -/

/-- What code does next. -/
inductive Move (Request Record State : Type) where
  /-- It makes a call. What is handed back, and the number that is then found, decide where it goes
  on. -/
  | calls (request : Request) (resume : Int → Record → Errno → State)
  /-- It is done. -/
  | ends

/-- Code that makes system calls, by what it does next at each place. -/
abbrev Routine (Request Record State : Type) :=
  State → Move Request Record State

/-- How far code has come: where it stands, and the calls that it has made, in order. -/
structure Progress (Request State : Type) where
  state : State
  requests : List Request := []

namespace Routine

variable {Request Record State : Type} (routine : Routine Request Record State)

/-- The code is done. -/
def IsOver (progress : Progress Request State) : Prop :=
  routine progress.state = .ends

/-- The code makes its next call, if it is not done. -/
def turn (reply : Reply Record) :
    Progress Request State × Errno → Progress Request State × Errno
  | (progress, errno) =>
    match routine progress.state with
    | .ends => (progress, errno)
    | .calls request resume =>
      let errno := reply.leaves errno
      (⟨resume reply.value reply.record errno, progress.requests ++ [request]⟩, errno)

/-- The code after so many calls, and the number that then stands there. -/
def after (replies : Nat → Reply Record) (start : State) (errno : Errno) :
    Nat → Progress Request State × Errno
  | 0 => (⟨start, []⟩, errno)
  | n + 1 => routine.turn (replies n) (after replies start errno n)

variable {routine}

theorem turn_of_isOver {reply : Reply Record} {spot : Progress Request State × Errno}
    (h : routine.IsOver spot.1) : routine.turn reply spot = spot := by
  rw [turn, h]

theorem turn_of_calls {reply : Reply Record} {progress : Progress Request State} {errno : Errno}
    {request : Request} {resume : Int → Record → Errno → State}
    (h : routine progress.state = .calls request resume) :
    routine.turn reply (progress, errno) =
      (⟨resume reply.value reply.record (reply.leaves errno), progress.requests ++ [request]⟩,
        reply.leaves errno) := by
  rw [turn, h]

end Routine

end JobShell
