import JobShell.System.Failure

/-!
# JobShell.System.RawWrite — writing a whole buffer, one call at a time

A call that writes may take only part of what it is offered, may be interrupted by a signal, or may
fail. `deliver` goes on with the rest after a partial write and repeats an interrupted one; any
other failure, or a call that takes nothing, ends it. The results of the calls are given as a list;
when it ends, the next call takes everything.
-/

namespace JobShell

/-- What one call that writes answers. -/
inductive WriteResult where
  /-- So many bytes were taken. -/
  | accepted (count : Nat)
  /-- Nothing was taken. -/
  | failed (errno : Errno)
deriving DecidableEq, Repr

/-- What stands behind a descriptor, as far as writing goes. -/
inductive Sink where
  /-- Something that takes everything. -/
  | storage
  /-- A pipe that answers at once and has room for so many bytes. -/
  | pipe (room : Nat)
  /-- A full pipe that is emptied while the first call waits, which interrupts it. -/
  | emptiedWhileWaiting
  /-- Nothing: the descriptor is not open for writing. -/
  | closed
  /-- A device without room. -/
  | full
  /-- A pipe that nobody reads from, with the signal for that ignored. -/
  | broken
deriving DecidableEq, Repr

/-- The results of the calls that write to a sink, as far as they are not complete. -/
def Sink.results : Sink → List WriteResult
  | .storage => []
  | .pipe room => [.accepted room, .failed .again]
  | .emptiedWhileWaiting => [.failed .interrupted]
  | .closed => [.failed .badDescriptor]
  | .full => [.failed .noSpace]
  | .broken => [.failed .brokenPipe]

/-- What became of a buffer that was written. -/
structure Delivery where
  /-- The bytes that were taken, in order. -/
  delivered : Bytes
  /-- The results that were not asked for, because writing was over. -/
  unused : List WriteResult
  /-- The number that the last failed call left behind. -/
  errno : Errno
deriving DecidableEq, Repr

/-- Writes a buffer against the results of the successive calls. -/
def deliver (errno : Errno) : List WriteResult → Bytes → Delivery
  | results, [] => ⟨[], results, errno⟩
  | [], bytes => ⟨bytes, [], errno⟩
  | .accepted 0 :: results, _ :: _ => ⟨[], results, errno⟩
  | .accepted (count + 1) :: results, bytes =>
    let rest := deliver errno results (bytes.drop (count + 1))
    { rest with delivered := bytes.take (count + 1) ++ rest.delivered }
  | .failed reason :: results, bytes =>
    if reason = Errno.interrupted then deliver reason results bytes else ⟨[], results, reason⟩

end JobShell
