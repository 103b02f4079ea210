import JobShell.Child.Notice
import JobShell.Child.Table
import JobShell.System.RawWrite

/-!
# JobShell.Child.Reaper — collecting background jobs that have ended

One run of the reaper collects every child that has ended and writes a notice for each. It looks
before it collects, because it must leave the foreground child to whoever waits for it, and it
stops there even if later children have ended too: they are reported once the foreground is free.

Deliveries of the signal for ended children coalesce, so one run has to go on until nothing is
left. Each call may be interrupted and each write may be partial; what happens to the calls of one
run is given by `ReapConditions`.
-/

namespace JobShell

/-- What happens to the system calls of one run of the reaper. -/
structure ReapConditions where
  /-- Whether the successive looking and collecting calls are interrupted; those beyond the end of
  the list are not. -/
  interruptions : List Bool := []
  /-- The results of the writes of the successive notices; those beyond the end are complete. -/
  writes : List (List WriteResult) := []
deriving DecidableEq, Repr

/-- What one run of the reaper did. -/
structure Reaping where
  /-- The children collected with a notice, in order. -/
  collected : List (Pid × Termination)
  /-- What the notices made it to their descriptor. -/
  delivered : Bytes
  /-- The table after the run. -/
  children : Children
  /-- The number that the last failed call left behind. -/
  errno : Errno
deriving DecidableEq, Repr

namespace Reaper

/-- A run that collects nothing more. -/
def stop (children : Children) (errno : Errno) : Reaping where
  collected := []
  delivered := []
  children := children
  errno := errno

/-- What a failed wait leaves behind. -/
def errnoAfter (errno : Errno) : WaitError → Errno
  | .failed reason => reason
  | .notReady => errno

/-- One run of the reaper, for a foreground child that it must leave alone. Every round either
uses up an interruption or collects a child. -/
def reap (foreground : Option Pid) (interruptions : List Bool) (writes : List (List WriteResult))
    (errno : Errno) (children : Children) : Reaping :=
  match interruptions with
  -- the look was interrupted
  | true :: interruptions => reap foreground interruptions writes .interrupted children
  -- the look succeeds, but collecting would be interrupted
  | false :: true :: interruptions =>
    match children.peek with
    | .error reason => stop children (errnoAfter errno reason)
    | .ok pid =>
      if foreground = some pid then stop children errno
      else reap foreground interruptions writes .interrupted children
  | interruptions =>
    match children.peek with
    | .error reason => stop children (errnoAfter errno reason)
    | .ok pid =>
      if foreground = some pid then stop children errno
      else
        match _h : Children.wait (.child pid) true children with
        | (some (.ok (pid, status)), rest) =>
          match status.termination? with
          | some termination =>
            let delivery := deliver errno (writes.headD []) (Notice.of pid termination)
            let later := reap foreground (interruptions.drop 2) writes.tail delivery.errno rest
            { later with
              collected := (pid, termination) :: later.collected
              delivered := delivery.delivered ++ later.delivered }
          -- it has not ended after all, so there is nothing to report
          | none => reap foreground (interruptions.drop 2) writes errno rest
        | (some (.error reason), rest) => stop rest (errnoAfter errno reason)
        | (none, rest) => stop rest errno
termination_by interruptions.length + children.length
decreasing_by
  all_goals first
    | (simp only [List.length_cons]; omega)
    | (have shorter := Children.length_wait_lt _h
       simp only [List.length_drop]
       omega)

/-- One run of the reaper under given conditions. -/
def run (foreground : Option Pid) (conditions : ReapConditions) (errno : Errno)
    (children : Children) : Reaping :=
  reap foreground conditions.interruptions conditions.writes errno children

end Reaper

end JobShell
