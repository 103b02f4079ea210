import JobShell.Proofs.Shell.Invariants
import JobShell.Proofs.Supervisor.Rejecting
import JobShell.Supervisor.Terminal

/-!
# JobShell.Proofs.Supervisor.Interrupts — who can be interrupted in a session

Interrupts from the terminal are for commands in the foreground alone: the shell ignores them from
its start on, its jobs go on ignoring them, and only a child in the foreground takes the default
action back. What a child has when it asks for its program depends on where its launch stands in a
session, since a call that runs a command in the foreground changes both the dispositions and the
mask of the shell around the fork.

* `Birth` is a child that asks to become its program, with the mask that the shell had before the
  command; `Birth.Proper` is what it may have changed since. `Supervisor.Bears` ties it to the
  launch: the fate that the system is given for the child is decided in that state.
* `Course.Step` lists what can happen in a session: commands are launched and called, the supervisor
  takes its steps, waiting is answered in any way, and children end and are reported at any time.
* `Course.Keeps.step` is the step lemma. Inside a call it rests on `Phase.Holds`, which says what
  the call has changed and that it remembers what to put back.
* `Supervisor.interrupt_policy` follows for all that can happen, and the sessions that run are among
  that.
-/

namespace JobShell

variable {World File Place : Type}

/-! ## Masks -/

namespace SignalSet

variable {mask : SignalSet}

/-- Letting a signal through takes it out of a mask and does nothing else. -/
theorem IsMask.unblock (h : mask.IsMask) (set : SignalSet) :
    MaskChange.unblock.apply set mask = mask \ set := by
  have hbits : mask.bits &&& ~~~unmaskable.bits = mask.bits := congrArg bits h
  apply ext_bits
  change (mask.bits &&& ~~~set.bits) &&& ~~~unmaskable.bits = mask.bits &&& ~~~set.bits
  rw [BitVec.and_assoc, BitVec.and_comm (~~~set.bits), ← BitVec.and_assoc, hbits]

/-- A signal that was blocked before it is let through might as well not have been. -/
theorem IsMask.unblock_block (h : mask.IsMask) (set : SignalSet) :
    MaskChange.unblock.apply set (MaskChange.block.apply set mask) = mask \ set := by
  rw [← h.unblock set]
  apply ext_bits
  change (((mask.bits ||| set.bits) &&& ~~~unmaskable.bits) &&& ~~~set.bits) &&&
    ~~~unmaskable.bits = (mask.bits &&& ~~~set.bits) &&& ~~~unmaskable.bits
  ext i hi
  simp only [BitVec.getElem_and, BitVec.getElem_or, BitVec.getElem_not]
  cases mask.bits[i] <;> cases set.bits[i] <;> cases unmaskable.bits[i] <;> rfl

end SignalSet

/-! ## Children that ask for their programs -/

/-- A child that asks to become its program. -/
structure Birth (File Place : Type) where
  mode : Mode
  /-- The signals that the shell held back before the command. -/
  held : SignalSet
  /-- The state in which the child asks. -/
  asking : Attributes File Place

/-- What a child has changed when it asks for its program: only a foreground job can be interrupted,
a broken pipe has its default action, and the signal for ended children is let through. -/
structure Birth.Proper (birth : Birth File Place) : Prop where
  interrupt : birth.asking.dispositions.get .interrupt =
    match birth.mode with
    | .foreground => .default
    | .background => .ignore
  brokenPipe : birth.asking.dispositions.get .brokenPipe = .default
  mask : birth.asking.mask = birth.held \ .bit .child

/-- A child that binds its streams changes nothing but its open files. -/
theorem Redirections.toOption_installOrFail {redirections : Redirections}
    {child bound : Attributes File Place}
    (h : (redirections.installOrFail child).toOption = some bound) :
    ∃ descriptors, bound = { child with descriptors } := by
  unfold installOrFail at h
  split at h
  · cases h
  · exact ⟨_, (Option.some.inj h).symm⟩

/-- A child that does not bind its streams reports why. -/
theorem Redirections.installOrFail_error {redirections : Redirections}
    {child : Attributes File Place} {fate : Fate File Place}
    (h : redirections.installOrFail child = .error fate) :
    ∃ message output, fate = .fails message output := by
  unfold installOrFail at h
  split at h
  · exact ⟨_, _, (Except.error.inj h).symm⟩
  · cases h

/-- What becomes of a child after it has asked for its program in some state, or without it. -/
inductive Host.Ensues (host : Host World File Place) (world : World) (program : String) :
    Option (Attributes File Place) → Fate File Place → Prop where
  | unasked {message : String} {output : Option File} :
      Ensues host world program none (.fails message output)
  | refused {asking : Attributes File Place} {arguments : List Bytes} {errno : Errno}
      (refused : host.exec world asking arguments = .error errno) :
      Ensues host world program (some asking) (asking.failing (programFailure program))
  | granted {asking : Attributes File Place} {arguments : List Bytes}
      (granted : host.exec world asking arguments = .ok ()) :
      Ensues host world program (some asking) (.runs arguments asking.afterExec)

/-- The fate of a child is decided where it asks for its program. -/
theorem Host.ensues_fate (host : Host World File Place) (world : World) (program : String)
    (vector : ArgumentVector) (redirections : Redirections) (child : Attributes File Place) :
    host.Ensues world program (redirections.installOrFail child).toOption
      (host.fate world program vector redirections child) := by
  unfold fate
  cases hinstall : redirections.installOrFail child with
  | error failed =>
    obtain ⟨message, output, rfl⟩ := Redirections.installOrFail_error hinstall
    exact .unasked
  | ok bound =>
    dsimp only
    split
    · next hexec => exact .refused hexec
    · next hexec => exact .granted hexec

namespace Supervisor

variable {host : Host World File Place} {command : Command} {mode : Mode}
  {shell after : Supervisor World File Place} {pid : Pid}

/-- The state in which a child that is started now asks to become its program, if it comes that
far. -/
def asking? (host : Host World File Place) (command : Command) (mode : Mode)
    (shell : Supervisor World File Place) : Option (Attributes File Place) :=
  let opened := host.redirect command mode shell.attributes.place shell.attributes.descriptors
    shell.world
  (opened.1.installOrFail
    ({ shell.attributes with descriptors := opened.2.1 }.ofChild mode)).toOption

theorem asking?_eq_some {asking : Attributes File Place}
    (h : shell.asking? host command mode = some asking) :
    ∃ descriptors, asking = { shell.attributes.ofChild mode with descriptors } := by
  obtain ⟨descriptors, hasking⟩ := Redirections.toOption_installOrFail h
  exact ⟨descriptors, hasking⟩

/-- The child that a launch brings, if there is one and it comes to ask for its program. -/
def births (host : Host World File Place) (command : Command) (mode : Mode) (held : SignalSet)
    (shell : Supervisor World File Place) : List (Birth File Place) :=
  match shell.launch host command mode with
  | (.ok _, _) => ((shell.asking? host command mode).map (Birth.mk mode held)).toList
  | (.error _, _) => []

/-- How a launch comes to its child. -/
structure Bears (host : Host World File Place) (command : Command) (mode : Mode)
    (shell : Supervisor World File Place) : Prop where
  /-- What a launch came to is what the system made of the child that was asked for. -/
  created : shell.launch host command mode =
    shell.created host (shell.creation host command mode)
  /-- That child fails before it asks for its program, or begins it, or reports that there is none,
  in the state in which it asks. -/
  ensues : ∀ fate world, shell.creation host command mode = .ok (fate, world) →
    host.Ensues world command.program (shell.asking? host command mode) fate
  /-- If there is a child and it comes to ask, it is among the births. -/
  recorded : ∀ pid after asking held, shell.launch host command mode = (.ok pid, after) →
    shell.asking? host command mode = some asking →
      ⟨mode, held, asking⟩ ∈ shell.births host command mode held

theorem bears (host : Host World File Place) (command : Command) (mode : Mode)
    (shell : Supervisor World File Place) : shell.Bears host command mode where
  created := launch_eq_created host command mode shell
  ensues := by
    intro fate world hcreation
    obtain ⟨vector, hchild⟩ := childWith_of_creation hcreation
    obtain ⟨rfl, rfl⟩ := Prod.mk.inj hchild
    exact host.ensues_fate ..
  recorded := by
    intro pid after asking held hlaunch hasking
    simp [births, hlaunch, hasking]

/-- What a child inherits decides what it has when it asks for its program. -/
theorem proper_of_mem_births {held : SignalSet} {birth : Birth File Place}
    (hbirth : birth ∈ shell.births host command mode held)
    (hmask : MaskChange.unblock.apply (.bit .child) shell.attributes.mask = held \ .bit .child)
    (hinterrupt : shell.attributes.dispositions.get .interrupt = .ignore) : birth.Proper := by
  unfold births at hbirth
  split at hbirth
  · rw [Option.mem_toList, Option.map_eq_some_iff] at hbirth
    obtain ⟨asking, hasking, rfl⟩ := hbirth
    obtain ⟨descriptors, rfl⟩ := asking?_eq_some hasking
    cases mode with
    | foreground => exact ⟨rfl, rfl, hmask⟩
    | background => exact ⟨hinterrupt, rfl, hmask⟩
  · cases hbirth

end Supervisor

/-! ## Sessions -/

/-- A call that runs a command in the foreground. -/
structure Call (File Place : Type) where
  command : Command
  /-- What the shell's process was when the call began. -/
  before : Attributes File Place
  phase : Phase := .entering

/-- The children of a call that come to ask for their program with its next step. -/
def Call.births (host : Host World File Place) (call : Call File Place)
    (shell : Supervisor World File Place) : List (Birth File Place) :=
  match call.phase with
  | .blocked .. => shell.births host call.command .foreground call.before.mask
  | _ => []

/-- A session so far: what the shell is about, and the children that have asked for their
programs. -/
structure Course (World File Place : Type) where
  shell : Supervisor World File Place
  call : Option (Call File Place) := none
  births : List (Birth File Place) := []

namespace Course

/-- What can happen next in a session. -/
inductive Step (host : Host World File Place) :
    Course World File Place → Course World File Place → Prop
  /-- A command is launched in the background, or cannot be. -/
  | launches {shell births} (command : Command) :
      Step host ⟨shell, none, births⟩
        ⟨(shell.launch host command .background).2, none,
          births ++ shell.births host command .background shell.attributes.mask⟩
  /-- The working directory is changed. -/
  | moves {shell births} (place : Place) :
      Step host ⟨shell, none, births⟩ ⟨shell.withPlace place, none, births⟩
  /-- The call begins that runs a command in the foreground. -/
  | calls {shell births} (command : Command) :
      Step host ⟨shell, none, births⟩ ⟨shell, some { command, before := shell.attributes }, births⟩
  /-- The supervisor takes a step of its own. -/
  | steps {shell call births} :
      Step host ⟨shell, some call, births⟩
        ⟨(Supervisor.step host call.command call.phase shell).2,
          some { call with phase := (Supervisor.step host call.command call.phase shell).1 },
          births ++ call.births host shell⟩
  /-- Waiting for the child is answered in any way. -/
  | answered {shell command before guard pid births children}
      (answer : Except WaitError (Pid × WaitStatus)) :
      Step host ⟨shell, some ⟨command, before, .waiting guard pid⟩, births⟩
        ⟨{ shell with children }, some ⟨command, before, Phase.answered guard pid answer⟩, births⟩
  /-- The supervisor will not wait any longer. -/
  | givesUp {shell call births} :
      Step host ⟨shell, some call, births⟩
        ⟨shell, some { call with phase := call.phase.giveUp }, births⟩
  /-- The call returns. -/
  | returns {shell command before result births} :
      Step host ⟨shell, some ⟨command, before, .finished result⟩, births⟩ ⟨shell, none, births⟩
  /-- Children end, the reaper runs, something is read or written, or anything else happens that
  leaves alone what a call takes. -/
  | disturbed {shell other call births} (undisturbed : shell.Undisturbed other) :
      Step host ⟨shell, call, births⟩ ⟨other, call, births⟩

/-- Everything that a session can come to when it begins with a shell. -/
def Reachable (host : Host World File Place) (start : Supervisor World File Place) :
    Course World File Place → Prop :=
  Relation.ReflTransGen (Step host) { shell := start }

end Course

/-- A process that ignores interrupts and has a given mask. -/
structure Attributes.Ignores (attributes : Attributes File Place) (mask : SignalSet) : Prop where
  mask : attributes.mask = mask
  interrupt : attributes.dispositions.get .interrupt = .ignore

/-- A call ignores interrupts in each of its phases. -/
theorem Phase.Holds.interrupt {begun : Attributes File Place} {phase : Phase}
    {shell : Supervisor World File Place} (h : phase.Holds begun shell)
    (hbegun : begun.dispositions.get .interrupt = .ignore) :
    shell.attributes.dispositions.get .interrupt = .ignore := by
  have hguarded : begun.guarded.dispositions.get .interrupt = .ignore :=
    Dispositions.get_set_self _ _ _
  cases phase with
  | entering | finished => rw [h.1, hbegun]
  | guarded | cleared | leaving | waiting => rwa [h.2.1]
  | collected => rwa [h.2]
  | blocked | launched | rejected | reporting | reported | registered => rwa [h.2.2.1]

namespace Course

/-- What a session keeps about the shell's process. Between commands interrupts are ignored and the
mask is as it always was; during a call this is what the call will put back. -/
def Stands (mask : SignalSet) (shell : Supervisor World File Place) :
    Option (Call File Place) → Prop
  | none => shell.attributes.Ignores mask ∧ shell.foreground = none
  | some call => call.before.Ignores mask ∧ call.phase.Holds call.before shell

/-- What a session keeps. -/
structure Keeps (mask : SignalSet) (course : Course World File Place) : Prop where
  stands : Stands mask course.shell course.call
  births : ∀ birth ∈ course.births, birth.Proper

variable {host : Host World File Place} {mask : SignalSet} {shell : Supervisor World File Place}
  {course later : Course World File Place}

/-- The shell ignores interrupts, whatever it is about. -/
theorem Keeps.interrupt (h : course.Keeps mask) :
    course.shell.attributes.dispositions.get .interrupt = .ignore := by
  obtain ⟨shell, _ | call, births⟩ := course
  · exact h.stands.1.interrupt
  · exact h.stands.2.interrupt h.stands.1.interrupt

/-- The children of a call are proper: the shell has blocked a signal that they let through, and
guards itself against interrupts that they allow. -/
theorem proper_of_call (hmask : mask.IsMask) {call : Call File Place}
    (h : Stands mask shell (some call)) {birth : Birth File Place}
    (hbirth : birth ∈ call.births host shell) : birth.Proper := by
  obtain ⟨command, before, phase⟩ := call
  cases phase with
  | blocked guard saved =>
    have hattributes := h.2.2.2.1
    have hmask : before.mask.IsMask := by rwa [h.1.mask]
    refine Supervisor.proper_of_mem_births hbirth ?_ (h.2.interrupt h.1.interrupt)
    rw [hattributes]
    exact hmask.unblock_block _
  | _ => cases hbirth

/-- Whatever happens in a session, it keeps what it keeps. -/
theorem Keeps.step (hmask : mask.IsMask) (hstep : Step host course later)
    (h : course.Keeps mask) : later.Keeps mask := by
  cases hstep with
  | @launches shell births command =>
    obtain ⟨⟨⟨hsame, hinterrupt⟩, hforeground⟩, hbirths⟩ := h
    have hlaunch := Supervisor.undisturbed_launch host command .background shell
    refine ⟨⟨⟨?_, ?_⟩, ?_⟩, ?_⟩
    · rw [hlaunch.attributes]
      exact hsame
    · rw [hlaunch.attributes]
      exact hinterrupt
    · rw [hlaunch.foreground]
      exact hforeground
    · intro birth hbirth
      rcases List.mem_append.1 hbirth with hbefore | hborn
      · exact hbirths birth hbefore
      · have hshell : shell.attributes.mask.IsMask := by rwa [hsame]
        exact Supervisor.proper_of_mem_births hborn (hshell.unblock _) hinterrupt
  | moves place =>
    obtain ⟨hignores, hforeground⟩ := h.stands
    exact ⟨⟨⟨hignores.mask, hignores.interrupt⟩, hforeground⟩, h.births⟩
  | calls command => exact ⟨⟨h.stands.1, rfl, h.stands.2⟩, h.births⟩
  | @steps shell call births =>
    have hbefore : call.before.mask.IsMask := by rwa [h.stands.1.mask]
    refine ⟨⟨h.stands.1, h.stands.2.step hbefore⟩, ?_⟩
    intro birth hbirth
    rcases List.mem_append.1 hbirth with hearlier | hborn
    · exact h.births birth hearlier
    · exact proper_of_call hmask h.stands hborn
  | answered answer =>
    exact ⟨⟨h.stands.1, (Phase.Holds.answered h.stands.2 answer).undisturbed ⟨rfl, rfl⟩⟩, h.births⟩
  | givesUp => exact ⟨⟨h.stands.1, h.stands.2.giveUp⟩, h.births⟩
  | @returns shell command before result births =>
    obtain ⟨hbefore, hattributes, hforeground⟩ := h.stands
    exact ⟨⟨by rwa [hattributes], hforeground⟩, h.births⟩
  | @disturbed shell other call births hother =>
    refine ⟨?_, h.births⟩
    cases call with
    | none =>
      obtain ⟨hignores, hforeground⟩ := h.stands
      exact ⟨by rwa [hother.attributes], by rw [hother.foreground, hforeground]⟩
    | some call => exact ⟨h.stands.1, h.stands.2.undisturbed hother⟩

/-- A session that begins with a shell keeps what it keeps at every moment. -/
theorem Reachable.keeps (hmask : shell.attributes.mask.IsMask)
    (hinterrupt : shell.attributes.dispositions.get .interrupt = .ignore)
    (hforeground : shell.foreground = none) (h : Reachable host shell course) :
    course.Keeps shell.attributes.mask := by
  induction h with
  | refl => exact ⟨⟨⟨rfl, hinterrupt⟩, hforeground⟩, by simp⟩
  | tail _ hstep ih => exact ih.step hmask hstep

end Course

/-! ## Sessions that run -/

namespace Supervisor

/-- A session that begins with a shell can come to a moment with a given call, or to one between two
calls. -/
def ComesTo (host : Host World File Place) (start : Supervisor World File Place)
    (call : Option (Call File Place)) (shell : Supervisor World File Place) : Prop :=
  ∃ births, Course.Reachable host start ⟨shell, call, births⟩

variable {host : Host World File Place} {start shell other : Supervisor World File Place}

theorem ComesTo.undisturbed {call : Option (Call File Place)} (h : ComesTo host start call shell)
    (hother : shell.Undisturbed other) : ComesTo host start call other := by
  obtain ⟨births, hreached⟩ := h
  exact ⟨births, hreached.tail (.disturbed hother)⟩

theorem ComesTo.advance {command : Command} {before : Attributes File Place} {phase : Phase}
    (h : ComesTo host start (some ⟨command, before, phase⟩) shell) :
    ComesTo host start (some ⟨command, before, (advance host command phase shell).1⟩)
      (advance host command phase shell).2 := by
  obtain ⟨births, hreached⟩ := h
  exact ⟨_, (hreached.tail .steps).tail (.disturbed (undisturbed_deliver host _))⟩

/-- The call that runs takes its steps one after the other and returns. -/
theorem ComesTo.run {command : Command} {before : Attributes File Place} {phase : Phase}
    (patience : Nat) (h : ComesTo host start (some ⟨command, before, phase⟩) shell) :
    ComesTo host start none (Supervisor.run host command patience phase shell).2 := by
  fun_induction Supervisor.run host command patience phase shell with
  | case1 patience phase shell result hresult =>
    obtain ⟨births, hreached⟩ := h
    cases phase with
    | finished => exact ⟨births, hreached.tail .returns⟩
    | _ => cases hresult
  | case2 phase shell _ _ ih =>
    obtain ⟨births, hreached⟩ := h
    exact ih ⟨births, hreached.tail .givesUp⟩
  | case3 phase shell _ _ patience advanced ih => exact ih h.advance
  | case4 patience phase shell _ _ advanced ih => exact ih h.advance

theorem undisturbed_refill (host : Host World File Place)
    (shell : Supervisor World File Place) : shell.Undisturbed (shell.refill host).2 := by
  unfold refill
  split
  · exact ⟨rfl, rfl⟩
  · split <;> exact ⟨rfl, rfl⟩

/-- Reading changes nothing that a call could take. -/
theorem undisturbed_takeLine (host : Host World File Place) (reads : Nat) (known buffer : Bytes)
    (shell : Supervisor World File Place) :
    shell.Undisturbed (takeLine host reads known buffer shell).2.2 := by
  induction reads generalizing known buffer shell with
  | zero => exact ⟨rfl, rfl⟩
  | succ reads ih =>
    have hrefill := undisturbed_refill host shell
    rw [takeLine]
    split
    · exact ⟨rfl, rfl⟩
    · split
      all_goals
        next hresult =>
          rw [hresult] at hrefill
          first
            | exact hrefill
            | exact hrefill.trans (ih _ _ _)

/-- All services of a session lead from what it can come to to what it can come to. -/
theorem preserves_comesTo (host : Host World File Place) (patience : Nat) (home : Option Bytes)
    (start : Supervisor World File Place) :
    (services host patience home).Preserves (ComesTo host start none) where
  launchBackground command h := by
    obtain ⟨births, hreached⟩ := h
    exact ⟨_, (hreached.tail (.launches command)).tail (.disturbed (undisturbed_deliver host _))⟩
  runForeground command h := by
    obtain ⟨births, hreached⟩ := h
    exact ComesTo.run patience ⟨births, hreached.tail (.calls command)⟩
  changeDirectory {shell} path h := by
    obtain ⟨births, hreached⟩ := h
    change ComesTo host start none (shell.changeDirectory host path).2
    unfold changeDirectory
    split
    · exact ⟨births, hreached.tail (.moves _)⟩
    · exact ⟨births, hreached⟩
  say text h := h.undisturbed ⟨rfl, rfl⟩
  complain text h := h.undisturbed ⟨rfl, rfl⟩

/-- A shell that is ready ignores interrupts and is otherwise as it was started. -/
theorem prepare_eq_ok (shell : Supervisor World File Place) :
    ∃ ready, shell.prepare = .ok ready ∧ ready.attributes.mask = shell.attributes.mask ∧
      ready.attributes.dispositions.get .interrupt = .ignore ∧
      ready.foreground = shell.foreground := by
  refine ⟨_, rfl, rfl, ?_, rfl⟩
  rw [withDispositions, Dispositions.get_set_of_ne _ _ (by decide), Dispositions.get_set_self]

/-- **Only commands in the foreground can be interrupted, in every session.** A process becomes a
shell, whatever it was started with. Then, at every moment of everything that can happen, the shell
ignores interrupts, and every child that has come to ask for its program

* has the default action for interrupts if it is in the foreground, and ignores them if it is not;
* has the default action for broken pipes;
* has the mask that the shell had before the command, less the signal for ended children.

That is the state in which the system begins the program of the child that a launch asks for. The
sessions that run are among what can happen, whatever their input is. -/
theorem interrupt_policy (host : Host World File Place) {start : Supervisor World File Place}
    (hmask : start.attributes.mask.IsMask) (hforeground : start.foreground = none) :
    ∃ ready, start.prepare = .ok ready ∧
      (∀ course, Course.Reachable host ready course →
        course.shell.attributes.dispositions.get .interrupt = .ignore ∧
          ∀ birth ∈ course.births, birth.Proper) ∧
      (∀ command mode shell, Bears host command mode shell) ∧
      ∀ patience home, ComesTo host ready none (start.interact host patience home).2 := by
  obtain ⟨ready, hready, hsame, hinterrupt, hnobody⟩ := start.prepare_eq_ok
  have hready' : ready.attributes.mask.IsMask := by rwa [hsame]
  refine ⟨ready, hready, ?_, bears host, ?_⟩
  · intro course hcourse
    have hkeeps := hcourse.keeps hready' hinterrupt (hnobody.trans hforeground)
    exact ⟨hkeeps.interrupt, hkeeps.births⟩
  · intro patience home
    have hbegins : ComesTo host ready none ready := ⟨[], .refl⟩
    simp only [interact, hready]
    exact Shell.run_preserves (preserves_comesTo host patience home ready)
      (fun buffer h => h.undisturbed (undisturbed_takeLine host ..)) patience [] hbegins

/-- A shell that was started with the signal for ended children blocked and interrupts handled runs
a command with both streams redirected: the child that the system is asked for can be interrupted
and holds nothing back. -/
theorem interrupt_policy_of_closed_shell :
    closedShell.attributes.mask.IsMask ∧ closedShell.foreground = none ∧
      ∃ ready course later birth fate world, closedShell.prepare = .ok ready ∧
        Course.Reachable Host.granting ready course ∧ Course.Step Host.granting course later ∧
        later.shell.attributes.dispositions.get .interrupt = .ignore ∧ birth ∈ later.births ∧
        birth.mode = .foreground ∧ birth.asking.dispositions.get .interrupt = .default ∧
        birth.asking.dispositions.get .brokenPipe = .default ∧ birth.asking.mask = .empty ∧
        course.shell.creation Host.granting .bothRedirected .foreground = .ok (fate, world) ∧
        Host.granting.Ensues world "cat" (some birth.asking) fate := by
  have hmask : closedShell.attributes.mask.IsMask := by decide
  obtain ⟨ready, hready, hpolicy, hbears, -⟩ := interrupt_policy Host.granting hmask rfl
  have called : Course.Reachable Host.granting ready
      ⟨ready, some ⟨.bothRedirected, ready.attributes, .entering⟩, []⟩ :=
    Relation.ReflTransGen.refl.tail (.calls .bothRedirected)
  cases hready
  have blocked := (called.tail .steps).tail .steps
  have forked := blocked.tail .steps
  obtain ⟨hignored, hproper⟩ := hpolicy _ forked
  have hbirth := hproper _ (List.Mem.head _)
  exact ⟨hmask, rfl, _, _, _, _, _, _, rfl, blocked, .steps, hignored, List.Mem.head _, rfl,
    hbirth.interrupt, hbirth.brokenPipe, hbirth.mask.trans (by decide), rfl,
    (hbears .bothRedirected .foreground _).ensues _ _ rfl⟩

end Supervisor

end JobShell
