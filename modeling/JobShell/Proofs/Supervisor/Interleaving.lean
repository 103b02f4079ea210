import JobShell.Proofs.Signal.Masks
import JobShell.Proofs.Supervisor.History
import JobShell.Supervisor.Services
import Mathlib.Logic.Relation

/-!
# JobShell.Proofs.Supervisor.Interleaving — everything that can happen to a shell with children

A shell works in small steps, its children end when they like, and the reaper cuts in wherever the
signal for ended children is pending and not blocked. `Moment.Step` lists what can happen next, and
`Moment.Reachable` are the moments that any order of these steps leads to.

* The steps of the shell are those of `Supervisor.launch` and `Supervisor.step`, with a history
  beside them; only repeated waiting is left to the system, which decides when a child ends.
* The reaper runs at once, because its handler blocks all other signals. A child that ends during
  its run might as well have ended before it, with the signal pending anew afterwards.
* The kernel offers children that have ended in any order: `offered` puts the table into the order
  in which the next run of the reaper will find them, which loses no choice
  (`Reaper.run_of_picks`).

`Publishes` compares the history with the system: a step that adds a report to the one has the other
write its notice. That the shell which runs stays among these steps is `Covers`, in
`JobShell.Proofs.Supervisor.Execution`.

Nothing is said about the host but what is documented of a new process: its number is positive and
no child that was not collected has it.
-/

namespace JobShell

/-! ## The signal for ended children in a mask -/

namespace SignalSet

theorem has_child_block (mask : SignalSet) :
    (MaskChange.block.apply (.bit .child) mask).has .child = true := by
  rw [MaskChange.has_apply_iff]
  exact ⟨.inr (by decide), by decide, by decide⟩

theorem has_child_replace (set mask : SignalSet) :
    (MaskChange.replace.apply set mask).has .child = set.has .child := by
  rw [Bool.eq_iff_iff, MaskChange.has_apply_iff]
  exact and_iff_left ⟨by decide, by decide⟩

end SignalSet

variable {World File Place : Type}

namespace Supervisor

theorem isBlocked_withMask_blockingMask (shell : Supervisor World File Place) :
    (shell.withMask shell.blockingMask).isBlocked = true :=
  SignalSet.has_child_block shell.attributes.mask

theorem isBlocked_restoreMask (shell : Supervisor World File Place) (mask : SignalSet) :
    (shell.restoreMask mask).isBlocked = mask.has .child :=
  SignalSet.has_child_replace mask shell.attributes.mask

/-! ## What concerns the children -/

/-- Two states of the shell's process that do not differ in anything about its children. -/
structure SameJobs (shell other : Supervisor World File Place) : Prop where
  children : other.children = shell.children
  pending : other.pending = shell.pending
  foreground : other.foreground = shell.foreground
  reaperInstalled : other.reaperInstalled = shell.reaperInstalled
  mask : other.attributes.mask = shell.attributes.mask
  reaction : other.attributes.dispositions.get .child = shell.attributes.dispositions.get .child

/-- The number of a new process, as the system promises it. -/
structure Fresh (shell : Supervisor World File Place) (pid : Pid) : Prop where
  positive : 0 < pid.number
  unused : ∀ child ∈ shell.children, child.pid ≠ pid

/-- The state of a shell that was started with the reaper installed. -/
structure Starts (shell : Supervisor World File Place) : Prop where
  children : shell.children = []
  foreground : shell.foreground = none
  reaperInstalled : shell.reaperInstalled = true
  reaction : shell.attributes.dispositions.get .child = .handle .reaper

theorem SameJobs.refl (shell : Supervisor World File Place) : shell.SameJobs shell :=
  ⟨rfl, rfl, rfl, rfl, rfl, rfl⟩

theorem SameJobs.isBlocked {shell other : Supervisor World File Place}
    (h : shell.SameJobs other) : other.isBlocked = shell.isBlocked := by
  rw [Supervisor.isBlocked, h.mask, Supervisor.isBlocked]

/-- Where the reaper is installed, the end of a child makes the signal pending. -/
theorem terminate_of_reaction {shell : Supervisor World File Place}
    (h : shell.attributes.dispositions.get .child = .handle .reaper) (pid : Pid)
    (status : WaitStatus) :
    shell.terminate pid status =
      { shell with children := shell.children.terminate pid status, pending := true } := by
  rw [terminate, h]

/-- A process without children that is prepared as a shell starts as one. -/
theorem starts_of_prepare {shell ready : Supervisor World File Place}
    (hchildren : shell.children = []) (hforeground : shell.foreground = none)
    (h : shell.prepare = .ok ready) : ready.Starts := by
  cases h
  exact ⟨hchildren, hforeground, rfl, Dispositions.get_set_self _ _ _⟩

/-- A launch that succeeds only adds the child. -/
theorem launch_ok {host : Host World File Place} {command : Command} {mode : Mode}
    {shell launched : Supervisor World File Place} {pid : Pid}
    (h : shell.launch host command mode = (.ok pid, launched)) :
    SameJobs { shell with children := shell.children ++ [⟨pid, none⟩] } launched := by
  unfold launch at h
  split at h
  · cases h
  · split at h
    · cases h
    · dsimp only at h
      split at h
      · cases h
      · cases h
        exact ⟨rfl, rfl, rfl, rfl, rfl, rfl⟩

/-- A launch that fails does nothing to the children. -/
theorem launch_error {host : Host World File Place} {command : Command} {mode : Mode}
    {shell rejected : Supervisor World File Place} {error : ShellError}
    (h : shell.launch host command mode = (.error error, rejected)) :
    SameJobs shell rejected := by
  unfold launch at h
  split at h
  · cases h
    exact .refl shell
  · split at h
    · cases h
      exact .refl shell
    · dsimp only at h
      split at h
      · cases h
        exact ⟨rfl, rfl, rfl, rfl, rfl, rfl⟩
      · cases h

end Supervisor

/-! ## The steps of a supervisor -/

/-- A step from one phase to the other brings the supervisor no child, and nothing is reported. -/
def Phase.IsQuiet : Phase → Phase → Prop
  | .blocked .., .rejected .. => True
  | .blocked .., _ => False
  | .waiting .., _ => False
  | .reporting .., _ => False
  | .finished .., _ => False
  | _, _ => True

namespace Supervisor

/-- What the quiet steps of a supervisor do to the shell. -/
inductive Moves (shell : Supervisor World File Place) :
    Phase → Phase → Supervisor World File Place → Prop
  | guard {guard dispositions} (signal : guard.signal = .interrupt)
      (reaction : dispositions.get .child = shell.attributes.dispositions.get .child) :
      Moves shell .entering (.guarded guard) (shell.withDispositions dispositions)
  | block {guard} :
      Moves shell (.guarded guard) (.blocked guard shell.attributes.mask)
        (shell.withMask shell.blockingMask)
  | reject {guard mask error rejected} (same : shell.SameJobs rejected) :
      Moves shell (.blocked guard mask) (.rejected guard mask error) rejected
  | register {guard mask pid} :
      Moves shell (.launched guard mask pid) (.registered guard mask pid)
        { shell with foreground := some pid }
  | unblock {guard mask pid} :
      Moves shell (.registered guard mask pid) (.waiting guard pid) (shell.restoreMask mask)
  | abandon {guard mask error} :
      Moves shell (.rejected guard mask error) (.leaving guard (.error error))
        (shell.restoreMask mask)
  | clear {guard result} :
      Moves shell (.collected guard result) (.cleared guard result)
        { shell with foreground := none }
  | hold {guard result} (installed : shell.reaperInstalled = true) :
      Moves shell (.cleared guard result) (.reporting guard shell.attributes.mask result)
        (shell.withMask shell.blockingMask)
  | skip {guard result} (absent : shell.reaperInstalled = false) :
      Moves shell (.cleared guard result) (.leaving guard result) shell
  | release {guard mask result} :
      Moves shell (.reported guard mask result) (.leaving guard result) (shell.restoreMask mask)
  | leave {guard result} :
      Moves shell (.leaving guard result) (.finished result)
        (shell.withDispositions (guard.drop shell.attributes.dispositions))

/-- A fork that succeeds has launched the command. -/
theorem launch_of_step {host : Host World File Place} {command : Command} {guard : Registration}
    {mask : SignalSet} {pid : Pid} {shell stepped : Supervisor World File Place}
    (h : step host command (.blocked guard mask) shell = (.launched guard mask pid, stepped)) :
    shell.launch host command .foreground = (.ok pid, stepped) := by
  rw [step] at h
  split at h
  · cases h
    assumption
  · cases h

/-- Waiting that brings a child ends with its status. -/
theorem step_of_wait_ok {host : Host World File Place} {command : Command} {guard : Registration}
    {pid found : Pid} {status : WaitStatus} {termination : Termination} {rest : Children}
    {shell : Supervisor World File Place}
    (h : shell.children.wait (.child pid) false = (some (.ok (found, status)), rest))
    (hdecoded : status.termination? = some termination) :
    step host command (.waiting guard pid) shell =
      (.collected guard (.ok termination), { shell with children := rest }) := by
  simp [step, waitOnce, h, decide?, hdecoded]

theorem moves_of_step {host : Host World File Place} {command : Command} {phase next : Phase}
    {shell stepped : Supervisor World File Place}
    (h : step host command phase shell = (next, stepped)) (hquiet : phase.IsQuiet next) :
    Moves shell phase next stepped := by
  cases phase with
  | entering =>
    cases h
    exact .guard rfl (Dispositions.get_set_of_ne _ _ (by decide))
  | guarded guard =>
    cases h
    exact .block
  | blocked guard mask =>
    rw [step] at h
    split at h
    · cases h
      exact hquiet.elim
    · cases h
      exact .reject (launch_error ‹_›)
  | launched guard mask pid =>
    cases h
    exact .register
  | registered guard mask pid =>
    cases h
    exact .unblock
  | rejected guard mask error =>
    cases h
    exact .abandon
  | waiting guard pid => exact hquiet.elim
  | collected guard result =>
    cases h
    exact .clear
  | cleared guard result =>
    rw [step] at h
    split at h
    · cases h
      exact .hold ‹_›
    · cases h
      exact .skip (Bool.eq_false_iff.2 ‹_›)
  | reporting guard mask result => exact hquiet.elim
  | reported guard mask result =>
    cases h
    exact .release
  | leaving guard result =>
    cases h
    exact .leave
  | finished result => exact hquiet.elim

end Supervisor

/-! ## Moments -/

/-- What the shell is about. -/
inductive Activity where
  /-- It is between two commands that it runs in the foreground. -/
  | idle
  /-- It runs a command in the foreground. -/
  | supervising (command : Command) (phase : Phase)

/-- A shell at one moment, with the history of its children. -/
structure Moment (World File Place : Type) where
  activity : Activity
  shell : Supervisor World File Place
  history : History := {}

namespace Moment

/-- What can happen next, when each run of the reaper meets conditions that are allowed. -/
inductive Step (host : Host World File Place) (allowed : ReapConditions → Prop) :
    Moment World File Place → Moment World File Place → Prop
  /-- A child ends. -/
  | ends {activity shell history pid status} (running : ⟨pid, none⟩ ∈ shell.children)
      (final : status.termination?.isSome) :
      Step host allowed ⟨activity, shell, history⟩
        ⟨activity, shell.terminate pid status, history.ended pid status⟩
  /-- The signal arrives for another reason: a child was stopped or goes on, or one ended that a
  run of the reaper had collected before the signal was delivered. -/
  | raised {activity shell history} :
      Step host allowed ⟨activity, shell, history⟩
        ⟨activity, { shell with pending := true }, history⟩
  /-- The kernel will offer the children in another order. -/
  | offered {activity shell history children} (order : children.Perm shell.children) :
      Step host allowed ⟨activity, shell, history⟩ ⟨activity, { shell with children }, history⟩
  /-- Something happens to the shell or to the system that has nothing to do with its children. -/
  | elsewhere {activity shell other history} (same : shell.SameJobs other) :
      Step host allowed ⟨activity, shell, history⟩ ⟨activity, other, history⟩
  /-- The signal is delivered and the reaper runs. -/
  | handled {activity shell history conditions} (pending : shell.pending = true)
      (unblocked : shell.isBlocked = false)
      (reaction : shell.attributes.dispositions.get .child = .handle .reaper)
      (allows : allowed conditions) :
      Step host allowed ⟨activity, shell, history⟩
        ⟨activity, { shell with pending := false }.handle host conditions,
          history.swept (Reaper.run shell.foreground conditions shell.errno shell.children)⟩
  /-- The shell launches a command in the background. -/
  | launched {command shell launched history pid}
      (created : shell.launch host command .background = (.ok pid, launched))
      (fresh : shell.Fresh pid) :
      Step host allowed ⟨.idle, shell, history⟩
        ⟨.idle, launched, history.created pid .background⟩
  /-- A command for the background cannot be launched. -/
  | rejected {command shell rejected history error}
      (failed : shell.launch host command .background = (.error error, rejected)) :
      Step host allowed ⟨.idle, shell, history⟩ ⟨.idle, rejected, history⟩
  /-- The call begins that runs a command in the foreground. -/
  | called {command shell history} :
      Step host allowed ⟨.idle, shell, history⟩
        ⟨.supervising command .entering, shell, history⟩
  /-- The supervisor takes a step that has nothing to do with its child. -/
  | quiet {command phase next shell stepped history}
      (steps : Supervisor.step host command phase shell = (next, stepped))
      (isQuiet : phase.IsQuiet next) :
      Step host allowed ⟨.supervising command phase, shell, history⟩
        ⟨.supervising command next, stepped, history⟩
  /-- The supervisor creates its child. -/
  | forked {command guard mask pid shell stepped history}
      (steps : Supervisor.step host command (.blocked guard mask) shell =
        (.launched guard mask pid, stepped))
      (fresh : shell.Fresh pid) :
      Step host allowed ⟨.supervising command (.blocked guard mask), shell, history⟩
        ⟨.supervising command (.launched guard mask pid), stepped,
          history.created pid .foreground⟩
  /-- Waiting for the child was interrupted. -/
  | interrupted {command guard pid shell history} :
      Step host allowed ⟨.supervising command (.waiting guard pid), shell, history⟩
        ⟨.supervising command (.waiting guard pid), shell, history⟩
  /-- Waiting for the child brings a child and its status. -/
  | waited {command guard pid next found status rest shell stepped history}
      (answers : shell.children.wait (.child pid) false = (some (.ok (found, status)), rest))
      (steps : Supervisor.step host command (.waiting guard pid) shell = (next, stepped)) :
      Step host allowed ⟨.supervising command (.waiting guard pid), shell, history⟩
        ⟨.supervising command next, stepped, history.awaited found status⟩
  /-- Waiting for the child fails. -/
  | failed {command guard pid next error rest shell stepped history}
      (answers : shell.children.wait (.child pid) false = (some (.error error), rest))
      (steps : Supervisor.step host command (.waiting guard pid) shell = (next, stepped)) :
      Step host allowed ⟨.supervising command (.waiting guard pid), shell, history⟩
        ⟨.supervising command next, stepped, history⟩
  /-- What was held back for the child is reported. -/
  | reported {command guard mask result shell history conditions} (allows : allowed conditions) :
      Step host allowed ⟨.supervising command (.reporting guard mask result), shell, history⟩
        ⟨.supervising command (.reported guard mask result), shell.reap host conditions,
          history.swept (Reaper.run shell.foreground conditions shell.errno shell.children)⟩
  /-- The call returns how its child ended, or why there is none. -/
  | returned {command result shell history} :
      Step host allowed ⟨.supervising command (.finished result), shell, history⟩
        ⟨.idle, shell, history.returned (result.map Outcome.ofTermination)⟩

/-- The moments that a shell can come to from a state in which it has no child. -/
def Reachable (host : Host World File Place) (allowed : ReapConditions → Prop)
    (shell : Supervisor World File Place) : Moment World File Place → Prop :=
  Relation.ReflTransGen (Step host allowed) ⟨.idle, shell, {}⟩

/-- The moment after a step, as far as the children are concerned. -/
theorem Reachable.then {host : Host World File Place} {allowed : ReapConditions → Prop}
    {shell stepped other : Supervisor World File Place} {moment : Moment World File Place}
    {activity : Activity} {history : History} (h : Reachable host allowed shell moment)
    (hstep : Step host allowed moment ⟨activity, stepped, history⟩)
    (hsame : stepped.SameJobs other) :
    Reachable host allowed shell ⟨activity, other, history⟩ :=
  (Relation.ReflTransGen.tail h hstep).tail (.elsewhere hsame)

/-- What one step adds to the reports in the history has gone out in this step. -/
inductive Publishes (Arrives : Bytes → Bytes → Prop) (host : Host World File Place)
    (moment later : Moment World File Place) : Prop where
  /-- Nobody was reported. -/
  | nothing (reports : later.history.reports = moment.history.reports)
      (written : later.history.written = moment.history.written)
  /-- The reaper ran. The file behind standard output, if there is one, took a piece of the notice
  for each child that was reported, and nothing else happened to the system. -/
  | notices {collected : List (Pid × Termination)} {bytes : Bytes}
      (carries : Carries Arrives collected bytes)
      (reports : later.history.reports = moment.history.reports ++ collected)
      (written : later.history.written = moment.history.written ++ bytes)
      (world : later.shell.world =
        (moment.shell.attributes.descriptors.file? Descriptors.standardOutput).elim
          moment.shell.world fun file => host.write file bytes moment.shell.world)

section Publishes

variable {Arrives : Bytes → Bytes → Prop} {host : Host World File Place}
  {allowed : ReapConditions → Prop} {shell : Supervisor World File Place}
  {moment later : Moment World File Place}

/-- Only a run of the reaper reports anybody, and it writes what the history says. -/
theorem Step.publishes (hallowed : ∀ conditions, allowed conditions → conditions.Bring Arrives)
    (h : Step host allowed moment later) : Publishes Arrives host moment later := by
  cases h with
  | handled _ _ _ allows | reported allows =>
    exact .notices (Reaper.run_carries _ _ _ (hallowed _ allows))
      (History.reports_reportedAll _ _) rfl rfl
  | _ => exact .nothing rfl rfl

theorem Publishes.carries (h : Publishes Arrives host moment later)
    (hbefore : Carries Arrives moment.history.reports moment.history.written) :
    Carries Arrives later.history.reports later.history.written := by
  cases h with
  | nothing reports written => rwa [reports, written]
  | notices carries reports written _ =>
    rw [reports, written]
    exact hbefore.append carries

/-- At every moment, what the reaper has written carries a notice for each of its reports. -/
theorem carries_of_reachable
    (hallowed : ∀ conditions, allowed conditions → conditions.Bring Arrives)
    (h : Reachable host allowed shell moment) :
    Carries Arrives moment.history.reports moment.history.written := by
  induction h with
  | refl => exact .nil
  | tail _ hstep ih => exact (hstep.publishes hallowed).carries ih

end Publishes

/-- How many steps of the supervisor are left at most, repeated waiting apart. -/
def remaining (moment : Moment World File Place) : Nat :=
  match moment.activity with
  | .idle => 0
  | .supervising _ phase => phase.remaining

/-- The supervisor can take a step that brings its call closer to its end. -/
def Advances (host : Host World File Place) (allowed : ReapConditions → Prop)
    (moment : Moment World File Place) : Prop :=
  ∃ later, Step host allowed moment later ∧ later.remaining < moment.remaining

end Moment

end JobShell
