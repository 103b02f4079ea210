import Mathlib.Logic.Relation
import JobShell.Proofs.Redirect.Install
import JobShell.Proofs.Signal.Masks
import JobShell.Supervisor.Foreground

/-!
# JobShell.Proofs.Supervisor.Restoring — a foreground command leaves the shell as it was

A call that runs a command in the foreground takes four things from the shell's process: interrupts
are ignored, the signal for ended children is blocked, twice perhaps, files of redirections are
open, and the reaper has a child to leave alone. They are taken at different phases and given back
at others, and some calls end early.

* `Phase.Holds` says for each phase what the process has been changed to since the call began, and
  that the phase remembers what it was.
* `Phase.Holds.step` is the step lemma: no step of the supervisor loses track of it.
* `Supervisor.Proceeds` lists everything that can happen during a call, with every answer that
  waiting can give and anything that children and reaper can do in between;
  `runForeground_restores` follows for every such execution, and for the one that runs.
-/

namespace JobShell

variable {World File Place : Type}

/-! ## Closing what was opened -/

namespace Host

/-- Closing the file of one redirection leads back to the table before. -/
theorem release_bind {host : Host World File Place} {stream : Stream} {path : Option String}
    {place : Place} {table opened : Descriptors File} {world after : World} {binding : Binding}
    (h : host.bind stream path place table world = (binding, opened, after)) :
    binding.release opened = table := by
  cases path with
  | none =>
    obtain ⟨rfl, rfl, -⟩ : Binding.inherit = binding ∧ table = opened ∧ world = after := by
      simpa [bind] using h
    rfl
  | some path =>
    rcases hopen : host.openFile stream path place table world with ⟨_ | ⟨number, placed⟩, next⟩
    · -- nothing was opened
      simp only [bind, hopen, Prod.mk.injEq] at h
      obtain ⟨rfl, rfl, -⟩ := h
      rfl
    · simp only [bind, hopen, Prod.mk.injEq] at h
      obtain ⟨rfl, rfl, -⟩ := h
      obtain ⟨file, -, hinsert⟩ := openFile_ok hopen
      exact Descriptors.set_none_of_insert? hinsert

/-- Closing the files of all redirections leads back to the table before, whichever of them could
be opened. -/
theorem release_redirect (host : Host World File Place) (command : Command) (mode : Mode)
    (place : Place) (table : Descriptors File) (world : World) :
    (host.redirect command mode place table world).1.release
      (host.redirect command mode place table world).2.1 = table := by
  rcases hout : host.bind .output command.output place table world with ⟨output, first, middle⟩
  rcases hin : host.bind .input (command.inputPath mode) place first middle with
    ⟨input, both, last⟩
  simp only [redirect, hout, hin, Redirections.release]
  rw [release_bind hin, release_bind hout]

end Host

/-! ## What children and reaper leave alone -/

namespace Supervisor

/-- Two states of the shell's process that do not differ in anything that a call takes. -/
structure Undisturbed (shell other : Supervisor World File Place) : Prop where
  attributes : other.attributes = shell.attributes
  foreground : other.foreground = shell.foreground

theorem Undisturbed.trans {shell middle other : Supervisor World File Place}
    (h : shell.Undisturbed middle) (hother : middle.Undisturbed other) :
    shell.Undisturbed other :=
  ⟨hother.attributes.trans h.attributes, hother.foreground.trans h.foreground⟩

theorem undisturbed_deliver (host : Host World File Place)
    (shell : Supervisor World File Place) : shell.Undisturbed (shell.deliver host) := by
  unfold deliver
  split
  · dsimp only
    split <;> exact ⟨rfl, rfl⟩
  · exact ⟨rfl, rfl⟩

theorem undisturbed_notice (shell : Supervisor World File Place) (event : Event) :
    shell.Undisturbed (shell.notice event) := by
  cases event with
  | alarm => exact ⟨rfl, rfl⟩
  | ended pid status =>
    rw [notice, terminate]
    split <;> exact ⟨rfl, rfl⟩

theorem undisturbed_await (host : Host World File Place)
    (shell : Supervisor World File Place) : shell.Undisturbed (shell.await host) := by
  have hpassed : shell.Undisturbed { shell with world := (host.next shell.world).2 } := ⟨rfl, rfl⟩
  exact (hpassed.trans (undisturbed_notice _ _)).trans (undisturbed_deliver host _)

/-- A launch closes what it has opened, whether or not there is a child. -/
theorem undisturbed_launch (host : Host World File Place) (command : Command) (mode : Mode)
    (shell : Supervisor World File Place) :
    shell.Undisturbed (shell.launch host command mode).2 := by
  unfold launch
  split
  · exact ⟨rfl, rfl⟩
  · split
    · exact ⟨rfl, rfl⟩
    · have hclosed := Host.release_redirect host command mode shell.attributes.place
        shell.attributes.descriptors shell.world
      dsimp only
      split <;> exact ⟨by rw [withDescriptors, hclosed], rfl⟩

end Supervisor

/-! ## What a call holds -/

namespace Dispositions

/-- Putting back what a change has replaced undoes it. -/
theorem set_set_get (dispositions : Dispositions) (signal : Signal) (new : Disposition) :
    (dispositions.set signal new).set signal (dispositions.get signal) = dispositions := by
  obtain ⟨get⟩ := dispositions
  simp only [set, mk.injEq]
  funext other
  split
  · next h => rw [h]
  · rfl

end Dispositions

namespace Attributes

/-- The process with interrupts ignored. -/
def guarded (attributes : Attributes File Place) : Attributes File Place :=
  { attributes with dispositions := attributes.dispositions.set .interrupt .ignore }

/-- The process with the signal for ended children blocked. -/
def blocked (attributes : Attributes File Place) : Attributes File Place :=
  { attributes with mask := MaskChange.block.apply (.bit .child) attributes.mask }

/-- What a call remembers to treat interrupts as before. -/
def guard (attributes : Attributes File Place) : Registration :=
  ⟨.interrupt, attributes.dispositions.get .interrupt⟩

theorem drop_guard (attributes : Attributes File Place) :
    attributes.guard.drop attributes.guarded.dispositions = attributes.dispositions :=
  attributes.dispositions.set_set_get .interrupt .ignore

end Attributes

namespace Supervisor

variable {shell : Supervisor World File Place} {begun : Attributes File Place}

theorem attributes_block (h : shell.attributes = begun.guarded) :
    (shell.withMask shell.blockingMask).attributes = begun.guarded.blocked := by
  rw [withMask, blockingMask, h]
  rfl

theorem attributes_restoreMask (hmask : begun.mask.IsMask)
    (h : shell.attributes = begun.guarded.blocked) :
    (shell.restoreMask begun.mask).attributes = begun.guarded := by
  rw [restoreMask, hmask.replace, withMask, h]
  rfl

theorem attributes_drop (h : shell.attributes = begun.guarded) :
    (shell.withDispositions (begun.guard.drop shell.attributes.dispositions)).attributes =
      begun := by
  rw [withDispositions, h, begun.drop_guard]
  rfl

end Supervisor

/-- Where an answer of waiting leads. -/
def Phase.answered (guard : Registration) (pid : Pid)
    (answer : Except WaitError (Pid × WaitStatus)) : Phase :=
  match decide? pid answer with
  | some result => .collected guard result
  | none => .waiting guard pid

/-- What the process is while a call is in a phase, and that the phase remembers what it was when
the call began. -/
def Phase.Holds (begun : Attributes File Place) (phase : Phase)
    (shell : Supervisor World File Place) : Prop :=
  match phase with
  | .entering | .finished _ => shell.attributes = begun ∧ shell.foreground = none
  | .guarded guard | .cleared guard _ | .leaving guard _ =>
    guard = begun.guard ∧ shell.attributes = begun.guarded ∧ shell.foreground = none
  | .blocked guard mask | .launched guard mask _ | .rejected guard mask _
  | .reporting guard mask _ | .reported guard mask _ =>
    guard = begun.guard ∧ mask = begun.mask ∧ shell.attributes = begun.guarded.blocked ∧
      shell.foreground = none
  | .registered guard mask pid =>
    guard = begun.guard ∧ mask = begun.mask ∧ shell.attributes = begun.guarded.blocked ∧
      shell.foreground = some pid
  | .waiting guard pid =>
    guard = begun.guard ∧ shell.attributes = begun.guarded ∧ shell.foreground = some pid
  -- whichever child it was, it is not left alone any longer
  | .collected guard _ => guard = begun.guard ∧ shell.attributes = begun.guarded

namespace Phase.Holds

variable {host : Host World File Place} {command : Command} {begun : Attributes File Place}
  {phase : Phase} {shell other : Supervisor World File Place}

/-- Children and reaper change nothing that a call holds. -/
theorem undisturbed (h : phase.Holds begun shell) (hother : shell.Undisturbed other) :
    phase.Holds begun other := by
  cases phase <;> simpa only [Holds, hother.attributes, hother.foreground] using h

/-- A supervisor that gives up goes on as with any other result. -/
theorem giveUp (h : phase.Holds begun shell) : phase.giveUp.Holds begun shell := by
  cases phase with
  | waiting => exact ⟨h.1, h.2.1⟩
  | _ => exact h

/-- Whatever waiting answers, the call keeps what it holds. -/
theorem answered {guard : Registration} {pid : Pid}
    (h : (Phase.waiting guard pid).Holds begun shell)
    (answer : Except WaitError (Pid × WaitStatus)) :
    (Phase.answered guard pid answer).Holds begun shell := by
  unfold Phase.answered
  split
  · exact ⟨h.1, h.2.1⟩
  · exact h

theorem waitOnce {guard : Registration} {pid : Pid}
    (h : (Phase.waiting guard pid).Holds begun shell) :
    (shell.waitOnce host guard pid).1.Holds begun (shell.waitOnce host guard pid).2 := by
  unfold Supervisor.waitOnce
  split
  · exact h.undisturbed (Supervisor.undisturbed_await host shell)
  · split
    · exact ⟨h.1, h.2.1⟩
    · exact h

/-- A step of the supervisor leads from what the call holds in one phase to what it holds in the
next: what the step takes is remembered, and what it gives back is as it was. -/
theorem step (hmask : begun.mask.IsMask) (h : phase.Holds begun shell) :
    (Supervisor.step host command phase shell).1.Holds begun
      (Supervisor.step host command phase shell).2 := by
  cases phase with
  | entering =>
    obtain ⟨rfl, hforeground⟩ := h
    exact ⟨rfl, rfl, hforeground⟩
  | guarded guard =>
    obtain ⟨hguard, hattributes, hforeground⟩ := h
    exact ⟨hguard, by rw [hattributes]; rfl, Supervisor.attributes_block hattributes, hforeground⟩
  | blocked guard mask =>
    have hlaunch := Supervisor.undisturbed_launch host command .foreground shell
    rw [Supervisor.step]
    split
    all_goals
      next hresult =>
        rw [hresult] at hlaunch
        exact h.undisturbed hlaunch
  | launched guard mask pid =>
    obtain ⟨hguard, hsaved, hattributes, -⟩ := h
    exact ⟨hguard, hsaved, hattributes, rfl⟩
  | registered guard mask pid | rejected guard mask error | reported guard mask result =>
    obtain ⟨hguard, rfl, hattributes, hforeground⟩ := h
    exact ⟨hguard, Supervisor.attributes_restoreMask hmask hattributes, hforeground⟩
  | waiting guard pid => exact h.waitOnce
  | collected guard result =>
    obtain ⟨hguard, hattributes⟩ := h
    exact ⟨hguard, hattributes, rfl⟩
  | cleared guard result =>
    obtain ⟨hguard, hattributes, hforeground⟩ := h
    rw [Supervisor.step]
    split
    · exact ⟨hguard, by rw [hattributes]; rfl, Supervisor.attributes_block hattributes,
        hforeground⟩
    · exact ⟨hguard, hattributes, hforeground⟩
  | reporting guard mask result => exact h.undisturbed ⟨rfl, rfl⟩
  | leaving guard result =>
    obtain ⟨rfl, hattributes, hforeground⟩ := h
    exact ⟨Supervisor.attributes_drop hattributes, hforeground⟩
  | finished result => exact h

theorem advance (hmask : begun.mask.IsMask) (h : phase.Holds begun shell) :
    (Supervisor.advance host command phase shell).1.Holds begun
      (Supervisor.advance host command phase shell).2 :=
  (h.step hmask).undisturbed (Supervisor.undisturbed_deliver host _)

end Phase.Holds

/-! ## Whole calls -/

namespace Supervisor

variable {host : Host World File Place} {command : Command} {begun : Attributes File Place}
  {phase : Phase} {shell : Supervisor World File Place}

/-- However far a call has come, when it returns everything has been given back. -/
theorem run_restores (hmask : begun.mask.IsMask) (patience : Nat) (h : phase.Holds begun shell) :
    (run host command patience phase shell).2.attributes = begun ∧
      (run host command patience phase shell).2.foreground = none := by
  fun_induction run host command patience phase shell with
  | case1 patience phase shell result hresult =>
    cases phase with
    | finished => exact h
    | _ => cases hresult
  | case2 phase shell _ _ ih => exact ih h.giveUp
  | case3 phase shell _ _ patience advanced ih => exact ih (h.advance hmask)
  | case4 patience phase shell _ _ advanced ih => exact ih (h.advance hmask)

/-- What can happen to a shell that runs a command in the foreground. -/
inductive Proceeds (host : Host World File Place) (command : Command) :
    Phase × Supervisor World File Place → Phase × Supervisor World File Place → Prop where
  /-- The supervisor takes a step of its own. -/
  | steps {phase : Phase} {shell : Supervisor World File Place} :
      Proceeds host command (phase, shell) (step host command phase shell)
  /-- Waiting for the child is answered in any way: it was interrupted, it failed for whatever
  reason, or it brings a child with any status. -/
  | answered {guard : Registration} {pid : Pid} {shell : Supervisor World File Place}
      {children : Children} (answer : Except WaitError (Pid × WaitStatus)) :
      Proceeds host command (.waiting guard pid, shell)
        (Phase.answered guard pid answer, { shell with children })
  /-- Children end, the reaper runs, or anything else happens that leaves alone what a call
  takes. -/
  | disturbed {phase : Phase} {shell other : Supervisor World File Place}
      (undisturbed : shell.Undisturbed other) :
      Proceeds host command (phase, shell) (phase, other)

theorem Proceeds.holds {before after : Phase × Supervisor World File Place}
    (hmask : begun.mask.IsMask) (hproceeds : Proceeds host command before after)
    (h : before.1.Holds begun before.2) : after.1.Holds begun after.2 := by
  cases hproceeds with
  | steps => exact h.step hmask
  | answered answer =>
    exact (Phase.Holds.answered h answer).undisturbed ⟨rfl, rfl⟩
  | disturbed hother => exact h.undisturbed hother

/-- **A call that runs a command in the foreground leaves the shell's process as it found it**: the
signal mask, all dispositions and all open files are as before, and the reaper leaves no child
alone. This holds for every outcome, of the call that runs and of every course that a call can take,
whatever waiting answers and how often it is interrupted. -/
theorem runForeground_restores (host : Host World File Place) (command : Command)
    {shell : Supervisor World File Place} (hmask : shell.attributes.mask.IsMask)
    (hforeground : shell.foreground = none) :
    (∀ patience,
      (shell.runForeground host patience command).2.attributes = shell.attributes ∧
        (shell.runForeground host patience command).2.foreground = none) ∧
      ∀ result after,
        Relation.ReflTransGen (Proceeds host command) (.entering, shell)
          (.finished result, after) →
        after.attributes = shell.attributes ∧ after.foreground = none := by
  have hbegins : Phase.entering.Holds shell.attributes shell := ⟨rfl, hforeground⟩
  constructor
  · intro patience
    exact run_restores hmask patience hbegins
  · intro result after hcourse
    have hholds (moment : Phase × Supervisor World File Place)
        (hreached : Relation.ReflTransGen (Proceeds host command) (.entering, shell) moment) :
        moment.1.Holds shell.attributes moment.2 := by
      induction hreached with
      | refl => exact hbegins
      | tail _ hproceeds ih => exact hproceeds.holds hmask ih
    exact hholds _ hcourse

/-- A shell without standard input and output that blocks the signal for ended children, ignores it
as well and handles interrupts, on a system that counts its processes from 5 on. -/
def closedShell : Supervisor Nat (Stream × Bytes) Unit where
  attributes :=
    { descriptors := .startedWith [2]
      mask := .bit .child
      dispositions := (Dispositions.atStart.set .interrupt (.handle .custom)).set .child .ignore
      place := () }
  reaperInstalled := true
  world := 5

/-- What a call returns when its child is gone before it could be collected. -/
def lostChild : Except ShellError Termination :=
  .error (.wait ⟨5⟩ (.os .noChild))

/-- The wait for a child with both streams redirected is interrupted, and then it fails because the
child is gone already. -/
theorem runForeground_restores_after_failed_wait :
    closedShell.attributes.mask.IsMask ∧ closedShell.foreground = none ∧
      ∃ after,
        Relation.ReflTransGen (Proceeds Host.granting .bothRedirected) (.entering, closedShell)
          (.finished lostChild, after) ∧
        after.attributes = closedShell.attributes ∧ after.foreground = none := by
  have hmask : closedShell.attributes.mask.IsMask := by decide
  have waiting : ∃ shell, shell.reaperInstalled = true ∧
      Relation.ReflTransGen (Proceeds Host.granting .bothRedirected) (.entering, closedShell)
        (.waiting closedShell.attributes.guard ⟨5⟩, shell) :=
    ⟨_, rfl, ((((Relation.ReflTransGen.refl.tail .steps).tail .steps).tail .steps).tail
      .steps).tail .steps⟩
  obtain ⟨shell, hinstalled, waiting⟩ := waiting
  have interrupted : Relation.ReflTransGen (Proceeds Host.granting .bothRedirected)
      (.entering, closedShell)
      (.waiting closedShell.attributes.guard ⟨5⟩, { shell with children := shell.children }) :=
    waiting.tail (.answered (.error (.failed .interrupted)))
  have failed : Relation.ReflTransGen (Proceeds Host.granting .bothRedirected)
      (.entering, closedShell)
      (.collected closedShell.attributes.guard lostChild, { shell with children := [] }) :=
    interrupted.tail (.answered (.error (.failed .noChild)))
  have cleared : Relation.ReflTransGen (Proceeds Host.granting .bothRedirected)
      (.entering, closedShell)
      (.cleared closedShell.attributes.guard lostChild,
        { shell with children := [], foreground := none }) :=
    failed.tail .steps
  have reporting := cleared.tail .steps
  rw [step, if_pos hinstalled] at reporting
  have finished := ((reporting.tail .steps).tail .steps).tail .steps
  refine ⟨hmask, rfl, _, finished, ?_⟩
  exact (runForeground_restores Host.granting .bothRedirected hmask rfl).2 _ _ finished

end Supervisor

end JobShell
