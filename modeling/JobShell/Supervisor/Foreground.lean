import JobShell.Supervisor.Launch

/-!
# JobShell.Supervisor.Foreground — running a command in the foreground

While a command runs in the foreground the shell ignores interrupts and waits for its child, and
the reaper goes on with all other children. The child may end at any moment, so the signal for
ended children is blocked until the reaper knows which child to leave alone; and a job that ended
while the reaper was holding back for the foreground child is reported afterwards.

The supervisor is a machine with one `Phase` per place where the reaper can cut in. `step` does one
thing, and `run` alternates steps with deliveries of the signal. Waiting is the only step that can
repeat; `patience` bounds how often.
-/

namespace JobShell

/-- What one answer of waiting for the foreground child decides: how the child ended, a failure, or
nothing, after which the supervisor waits again. -/
def decide? (pid : Pid) :
    Except WaitError (Pid × WaitStatus) → Option (Except ShellError Termination)
  | .ok (_, status) => status.termination?.map .ok
  | .error .notReady => none
  | .error (.failed errno) =>
    if errno = .interrupted then none else some (.error (.wait pid (.os errno)))

/-- Goes through the answers of successive waits up to the first decisive one; what is left of the
answers was never asked for. -/
def waitFor (pid : Pid) :
    List (Except WaitError (Pid × WaitStatus)) →
      Option (Except ShellError Termination × List (Except WaitError (Pid × WaitStatus)))
  | [] => none
  | answer :: answers =>
    match decide? pid answer with
    | some result => some (result, answers)
    | none => waitFor pid answers

/-- Where the supervisor of a foreground command stands. -/
inductive Phase where
  /-- Nothing has been done; interrupts are to be ignored. -/
  | entering
  /-- Interrupts are ignored; the signal for ended children is to be blocked. -/
  | guarded (guard : Registration)
  /-- The signal is blocked; the child is to be created. -/
  | blocked (guard : Registration) (mask : SignalSet)
  /-- There is a child; the reaper is to be told. -/
  | launched (guard : Registration) (mask : SignalSet) (pid : Pid)
  /-- The reaper knows the child; the mask is to be put back. -/
  | registered (guard : Registration) (mask : SignalSet) (pid : Pid)
  /-- There is no child; the mask is to be put back. -/
  | rejected (guard : Registration) (mask : SignalSet) (error : ShellError)
  /-- The supervisor waits for the child. -/
  | waiting (guard : Registration) (pid : Pid)
  /-- Waiting is over; the reaper is to be told. -/
  | collected (guard : Registration) (result : Except ShellError Termination)
  /-- The reaper may take any child; the signal is to be blocked. -/
  | cleared (guard : Registration) (result : Except ShellError Termination)
  /-- The signal is blocked; what was held back is to be reported. -/
  | reporting (guard : Registration) (mask : SignalSet) (result : Except ShellError Termination)
  /-- All is reported; the mask is to be put back. -/
  | reported (guard : Registration) (mask : SignalSet) (result : Except ShellError Termination)
  /-- Interrupts are to be treated as before. -/
  | leaving (guard : Registration) (result : Except ShellError Termination)
  /-- Everything has been put back. -/
  | finished (result : Except ShellError Termination)

namespace Phase

/-- How many steps may still come, repeated waiting apart. -/
def remaining : Phase → Nat
  | .entering => 12
  | .guarded _ => 11
  | .blocked .. => 10
  | .launched .. => 9
  | .registered .. => 8
  | .rejected .. => 8
  | .waiting .. => 7
  | .collected .. => 6
  | .cleared .. => 5
  | .reporting .. => 4
  | .reported .. => 3
  | .leaving .. => 2
  | .finished _ => 1

/-- Whether the supervisor waits for its child. -/
def isWaiting : Phase → Bool
  | .waiting .. => true
  | _ => false

/-- The result, once everything has been put back. -/
def result? : Phase → Option (Except ShellError Termination)
  | .finished result => some result
  | _ => none

/-- Where a supervisor goes that will not wait any longer: as if the last interruption of its wait
were a failure. -/
def giveUp : Phase → Phase
  | .waiting guard pid => .collected guard (.error (.wait pid (.os .interrupted)))
  | phase => phase

theorem remaining_pos (phase : Phase) : 0 < phase.remaining := by
  cases phase <;> simp [remaining]

theorem remaining_le (phase : Phase) : phase.remaining ≤ 12 := by
  cases phase <;> simp [remaining]

theorem remaining_giveUp_lt {phase : Phase} (h : phase.isWaiting) :
    phase.giveUp.remaining < phase.remaining := by
  cases phase <;> simp_all [isWaiting, giveUp, remaining]

end Phase

namespace Supervisor

variable {World File Place : Type}

/-- The mask with the signal for ended children blocked. -/
def blockingMask (shell : Supervisor World File Place) : SignalSet :=
  MaskChange.block.apply (.bit .child) shell.attributes.mask

/-- The process after its mask was put back. -/
def restoreMask (shell : Supervisor World File Place) (mask : SignalSet) :
    Supervisor World File Place :=
  shell.withMask (MaskChange.replace.apply mask shell.attributes.mask)

/-- One wait for the foreground child. -/
def waitOnce (host : Host World File Place) (guard : Registration) (pid : Pid)
    (shell : Supervisor World File Place) : Phase × Supervisor World File Place :=
  match shell.children.wait (.child pid) false with
  -- the call would block, so something else has to happen first
  | (none, _) => (.waiting guard pid, shell.await host)
  | (some answer, children) =>
    match decide? pid answer with
    | some result => (.collected guard result, { shell with children })
    | none => (.waiting guard pid, { shell with children })

/-- One step of the supervisor of a foreground command. -/
def step (host : Host World File Place) (command : Command) (phase : Phase)
    (shell : Supervisor World File Place) : Phase × Supervisor World File Place :=
  match phase with
  | .entering =>
    match Registration.register shell.attributes.dispositions .interrupt .ignore with
    | .ok (guard, dispositions) => (.guarded guard, shell.withDispositions dispositions)
    | .error error => (.finished (.error (.signal error.failure)), shell)
  | .guarded guard => (.blocked guard shell.attributes.mask, shell.withMask shell.blockingMask)
  | .blocked guard mask =>
    match shell.launch host command .foreground with
    | (.ok pid, shell) => (.launched guard mask pid, shell)
    | (.error error, shell) => (.rejected guard mask error, shell)
  | .launched guard mask pid => (.registered guard mask pid, { shell with foreground := some pid })
  | .registered guard mask pid => (.waiting guard pid, shell.restoreMask mask)
  | .rejected guard mask error => (.leaving guard (.error error), shell.restoreMask mask)
  | .waiting guard pid => shell.waitOnce host guard pid
  | .collected guard result => (.cleared guard result, { shell with foreground := none })
  -- without a reaper there is nobody who could have held anything back
  | .cleared guard result =>
    if shell.reaperInstalled then
      (.reporting guard shell.attributes.mask result, shell.withMask shell.blockingMask)
    else (.leaving guard result, shell)
  | .reporting guard mask result =>
    (.reported guard mask result, shell.reap host (shell.reapConditions host))
  | .reported guard mask result => (.leaving guard result, shell.restoreMask mask)
  | .leaving guard result =>
    (.finished result, shell.withDispositions (guard.drop shell.attributes.dispositions))
  | .finished result => (.finished result, shell)

/-- A step with the delivery after it. -/
def advance (host : Host World File Place) (command : Command) (phase : Phase)
    (shell : Supervisor World File Place) : Phase × Supervisor World File Place :=
  ((step host command phase shell).1, (step host command phase shell).2.deliver host)

/-- Every step but repeated waiting leads on. -/
theorem remaining_advance_lt (host : Host World File Place) (command : Command) {phase : Phase}
    (shell : Supervisor World File Place) (hwaiting : ¬phase.isWaiting)
    (hresult : phase.result? = none) :
    (advance host command phase shell).1.remaining < phase.remaining := by
  cases phase <;> simp only [advance, step] <;> (try split) <;>
    simp_all [Phase.remaining, Phase.isWaiting, Phase.result?]

/-- Goes on from a phase until everything has been put back. A supervisor waits at most as often as
its patience allows. -/
def run (host : Host World File Place) (command : Command) (patience : Nat) (phase : Phase)
    (shell : Supervisor World File Place) :
    Except ShellError Termination × Supervisor World File Place :=
  match _hresult : phase.result? with
  | some result => (result, shell)
  | none =>
    if _hwaiting : phase.isWaiting then
      match patience with
      | 0 => run host command 0 phase.giveUp shell
      | patience + 1 =>
        let advanced := advance host command phase shell
        run host command patience advanced.1 advanced.2
    else
      let advanced := advance host command phase shell
      run host command patience advanced.1 advanced.2
termination_by patience * 12 + phase.remaining
decreasing_by
  · have := Phase.remaining_giveUp_lt _hwaiting
    omega
  · have := (advance host command phase shell).1.remaining_le
    have := phase.remaining_pos
    omega
  · have := remaining_advance_lt host command shell _hwaiting _hresult
    omega

/-- Runs a command in the foreground and answers how it ended. -/
def runForeground (host : Host World File Place) (patience : Nat) (command : Command)
    (shell : Supervisor World File Place) :
    Except ShellError Outcome × Supervisor World File Place :=
  let (result, shell) := run host command patience .entering shell
  (result.map Outcome.ofTermination, shell)

end Supervisor

end JobShell
