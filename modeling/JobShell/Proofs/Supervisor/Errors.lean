import JobShell.Proofs.Supervisor.Rejecting
import JobShell.Proofs.Text.OneLine

/-!
# JobShell.Proofs.Supervisor.Errors — why a command could not be run

A command that is handed over to a process fails because it could not be launched, or because
waiting for it failed. So whatever holds of all errors of these two kinds (`Command.FailsWith`)
holds of every error that the command comes to, in the background and in the foreground.

* `Phase.Carries` is the invariant of the supervisor in the foreground: an error that a phase
  carries has the property. `Phase.Carries.step` is one step, `Supervisor.run_carries` a whole run.
* `ShellError.OfCommand` lists the errors; each is one line, so `status` can show it as one.
* A command with something to run is never rejected as an empty one.
-/

namespace JobShell

open Text

/-- The errors that a command can come to. -/
inductive ShellError.OfCommand : ShellError → Prop where
  | empty : OfCommand .emptyCommand
  | invalid (argument : String) : OfCommand (.invalidArgument argument)
  | fork (errno : Errno) : OfCommand (.fork (.os errno))
  | wait (pid : Pid) (errno : Errno) : OfCommand (.wait pid (.os errno))

/-- Each of them is one line, whatever the command was. -/
theorem ShellError.OfCommand.oneLine {error : ShellError} (h : error.OfCommand) :
    OneLine error.message := by
  cases h with
  | empty =>
    have hmessage : OneLine "no command given" := by decide
    exact hmessage
  | invalid argument =>
    have hopening : OneLine "invalid argument: " := by decide
    exact hopening.append (oneLine_quote argument)
  | fork errno =>
    have hopening : OneLine "cannot create process: " := by decide
    exact hopening.append errno.oneLine_message
  | wait pid errno =>
    have hopening : OneLine "cannot wait for process " := by decide
    have hcolon : OneLine ": " := by decide
    exact ((hopening.append (Decimal.oneLine_text _)).append hcolon).append errno.oneLine_message

variable {World File Place : Type}

namespace Supervisor

/-- A launch that fails says why. -/
theorem ofCommand_of_launch {host : Host World File Place} {command : Command} {mode : Mode}
    {shell : Supervisor World File Place} {error : ShellError}
    (h : (shell.launch host command mode).1 = .error error) : error.OfCommand := by
  rw [launch_eq_created] at h
  cases hcreation : shell.creation host command mode with
  | error reason =>
    rw [hcreation] at h
    obtain rfl : reason = error := Except.error.inj h
    by_cases hempty : command.arguments = []
    · rw [creation_eq_emptyCommand_iff.2 hempty] at hcreation
      cases hcreation
      exact .empty
    · rw [creation, if_neg hempty] at hcreation
      cases hfind : command.arguments.find? hasNul with
      | some argument =>
        rw [hfind] at hcreation
        cases hcreation
        exact .invalid argument
      | none =>
        rw [hfind] at hcreation
        cases hcreation
  | ok child =>
    obtain ⟨fate, world⟩ := child
    rw [hcreation, created] at h
    rcases hspawn : host.spawn fate world with ⟨errno | pid, after⟩
    · rw [hspawn] at h
      obtain rfl := Except.error.inj h
      exact .fork errno
    · rw [hspawn] at h
      cases h

end Supervisor

/-! ## Errors on their way through the supervisor -/

/-- All that a command can fail with has a property: the errors of its launches and the failures of
waiting. -/
structure Command.FailsWith (host : Host World File Place) (command : Command)
    (P : ShellError → Prop) : Prop where
  launch : ∀ {mode : Mode} {shell : Supervisor World File Place} {error : ShellError},
    (shell.launch host command mode).1 = .error error → P error
  wait : ∀ pid errno, P (.wait pid (.os errno))

/-- The error that a phase carries, if it does, has a property. -/
def Phase.Carries (P : ShellError → Prop) : Phase → Prop
  | .rejected _ _ error => P error
  | .collected _ result | .cleared _ result | .reporting _ _ result | .reported _ _ result
  | .leaving _ result | .finished result => ∀ error, result = .error error → P error
  | _ => True

/-- Waiting that is given up says which child it was for, and why. -/
theorem eq_wait_of_decide? {pid : Pid} {answer : Except WaitError (Pid × WaitStatus)}
    {error : ShellError} (h : decide? pid answer = some (.error error)) :
    ∃ errno, error = .wait pid (.os errno) := by
  unfold decide? at h
  split at h
  · next found status => cases htermination : status.termination? <;> simp [htermination] at h
  · cases h
  · next errno =>
    split at h
    · cases h
    · cases h
      exact ⟨errno, rfl⟩

section

variable {host : Host World File Place} {command : Command} {P : ShellError → Prop}

namespace Phase.Carries

variable {phase : Phase}

theorem giveUp (hfails : command.FailsWith host P) (h : phase.Carries P) :
    phase.giveUp.Carries P := by
  cases phase with
  | waiting guard pid =>
    rintro error ⟨⟩
    exact hfails.wait pid .interrupted
  | _ => exact h

theorem waitOnce (hfails : command.FailsWith host P) (guard : Registration) (pid : Pid)
    (shell : Supervisor World File Place) : (shell.waitOnce host guard pid).1.Carries P := by
  unfold Supervisor.waitOnce
  split
  · trivial
  · split
    · next result hresult =>
      rintro error rfl
      obtain ⟨errno, rfl⟩ := eq_wait_of_decide? hresult
      exact hfails.wait pid errno
    · trivial

/-- A step finds an error of the command, or passes one on. -/
theorem step (hfails : command.FailsWith host P) (h : phase.Carries P)
    (shell : Supervisor World File Place) :
    (Supervisor.step host command phase shell).1.Carries P := by
  cases phase with
  | entering => trivial
  | blocked guard mask =>
    rw [Supervisor.step]
    split
    · trivial
    · next hresult => exact hfails.launch (congrArg Prod.fst hresult)
  | rejected guard mask error =>
    rintro other ⟨⟩
    exact h
  | waiting guard pid => exact waitOnce hfails guard pid shell
  | cleared guard result =>
    rw [Supervisor.step]
    split <;> exact h
  | _ => exact h

end Phase.Carries

namespace Supervisor

/-- However far a call has come, its error is one of the command. -/
theorem run_carries (hfails : command.FailsWith host P) {phase : Phase}
    {shell : Supervisor World File Place} (patience : Nat) (h : phase.Carries P)
    {error : ShellError} (herror : (run host command patience phase shell).1 = .error error) :
    P error := by
  fun_induction run host command patience phase shell with
  | case1 patience phase shell result hresult =>
    cases phase with
    | finished =>
      cases hresult
      exact h error herror
    | _ => cases hresult
  | case2 phase shell _ _ ih => exact ih (h.giveUp hfails) herror
  | case3 phase shell _ _ patience advanced ih => exact ih (h.step hfails shell) herror
  | case4 patience phase shell _ _ advanced ih => exact ih (h.step hfails shell) herror

/-- What a command in the background fails with is an error of its launch. -/
theorem launchBackground_fails (hfails : command.FailsWith host P)
    {shell : Supervisor World File Place} {error : ShellError}
    (herror : (shell.launchBackground host command).1 = .error error) : P error := by
  have hlaunch : (shell.launch host command .background).1 = .error error := herror
  exact hfails.launch hlaunch

/-- What a command in the foreground fails with is an error of its launch or of waiting for it. -/
theorem runForeground_fails (hfails : command.FailsWith host P) {patience : Nat}
    {shell : Supervisor World File Place} {error : ShellError}
    (herror : (shell.runForeground host patience command).1 = .error error) : P error := by
  have hresult : ((run host command patience .entering shell).1).map Outcome.ofTermination =
      .error error := herror
  cases hended : (run host command patience .entering shell).1 with
  | ok termination =>
    rw [hended] at hresult
    cases hresult
  | error reason =>
    rw [hended] at hresult
    cases hresult
    have hentering : Phase.entering.Carries P := trivial
    exact run_carries hfails patience hentering hended

end Supervisor

/-! ## The errors of a command -/

/-- Every error of a command is one of those that are listed. -/
theorem Command.failsWith_ofCommand (host : Host World File Place) (command : Command) :
    command.FailsWith host ShellError.OfCommand :=
  ⟨Supervisor.ofCommand_of_launch, .wait⟩

/-- A command with something to run is never rejected as an empty one. -/
theorem Command.failsWith_ne_emptyCommand (host : Host World File Place)
    (harguments : command.arguments ≠ []) :
    command.FailsWith host (· ≠ .emptyCommand) := by
  constructor
  · rintro mode shell error hlaunch rfl
    rw [Supervisor.launch_eq_created, Supervisor.created_rejects_iff (by simp),
      Supervisor.creation_eq_emptyCommand_iff] at hlaunch
    exact harguments hlaunch
  · intro pid errno hwait
    cases hwait

end

end JobShell
