import JobShell.Proofs.Supervisor.Rejecting

/-!
# JobShell.Proofs.Supervisor.Confining — who has which files open

A launch opens files in the shell for its child to bind. They take whatever numbers are free, those
of the standard streams included, and some of them may be missing. The shell closes its copies and
the child closes its own as it binds them, so the files stay where they were asked for.

* `Redirections.get_install`: away from the streams, binding them comes to closing what was opened.
* `Supervisor.launch_confines`: the shell has the files open that it had open before, and of these a
  program has those that stay open on exec, under the same numbers.
-/

namespace JobShell

/-! ## Away from the streams -/

section

variable {File : Type}

namespace Binding

/-- Closing the file of a binding frees its number. -/
theorem get_release (binding : Binding) (table : Descriptors File) (number : Nat) :
    (binding.release table).get number =
      if binding = .opened number then none else table.get number := by
  cases binding with
  | inherit => simp [release]
  | failed message => simp [release]
  | opened other =>
    rw [release, Descriptors.get_set]
    simp only [opened.injEq, eq_comm]

/-- Away from its stream, a binding that succeeds does what closing its file does. -/
theorem get_install {binding : Binding} {stream : Stream} {table bound : Descriptors File}
    (h : binding.install stream table = .ok bound) {number : Nat} (hne : number ≠ stream.number) :
    bound.get number = (binding.release table).get number := by
  cases binding with
  | inherit =>
    cases h
    rfl
  | failed message =>
    cases h
    rfl
  | opened other =>
    cases hentry : table.get other with
    | none =>
      -- there is no file to bind
      exfalso
      by_cases hown : other = stream.number
      · simp [install, hown.symm, Descriptors.clearCloseOnExec, hentry, Except.mapError] at h
      · simp [install, hown, Descriptors.duplicate, hentry, Except.mapError, bind, Except.bind] at h
    | some entry =>
      rw [get_install_opened hentry h, if_neg hne, release, Descriptors.get_set]

end Binding

/-- Away from the streams, binding them does what closing their files does. -/
theorem Redirections.get_install {redirections : Redirections} {table bound : Descriptors File}
    (h : redirections.install table = (.ok (), bound)) {number : Nat}
    (hne : ∀ stream : Stream, number ≠ stream.number) :
    bound.get number = (redirections.release table).get number := by
  cases hfailure : redirections.failure? with
  | some message => simp [install, hfailure] at h
  | none =>
    cases houtput : redirections.output.install .output table with
    | error message => simp [install, hfailure, houtput] at h
    | ok middle =>
      cases hinput : redirections.input.install .input middle with
      | error message => simp [install, hfailure, houtput, hinput] at h
      | ok both =>
        obtain rfl : both = bound := by simpa [install, hfailure, houtput, hinput] using h
        rw [Binding.get_install hinput (hne .input), Binding.get_release,
          Binding.get_install houtput (hne .output), Binding.get_release, release,
          Binding.get_release, Binding.get_release]
        split <;> split <;> rfl

end

variable {World File Place : Type}

/-! ## The files of a program -/

namespace Host

/-- What a program has open away from its streams is what an exec leaves of the files that were not
opened for it. -/
theorem get_of_fate_runs {host : Host World File Place} {world : World} {name : String}
    {vector : ArgumentVector} {redirections : Redirections} {child program : Attributes File Place}
    {arguments : List Bytes}
    (h : host.fate world name vector redirections child = .runs arguments program) {number : Nat}
    (hne : ∀ stream : Stream, number ≠ stream.number) :
    program.descriptors.get number =
      (redirections.release child.descriptors).afterExec.get number := by
  rcases hinstall : redirections.install child.descriptors with ⟨message | ⟨⟩, bound⟩
  · simp [fate, Redirections.installOrFail, hinstall, Attributes.failing] at h
  · cases hexec : host.exec world { child with descriptors := bound } vector.read with
    | error errno =>
      simp [fate, Redirections.installOrFail, hinstall, hexec, Attributes.failing] at h
    | ok =>
      simp only [fate, Redirections.installOrFail, hinstall, hexec, Fate.runs.injEq] at h
      rw [← h.2, Attributes.afterExec, Descriptors.get_afterExec, Descriptors.get_afterExec,
        Redirections.get_install hinstall hne]

end Host

namespace Supervisor

/-- Neither the shell nor a program that it starts has files open that were opened for a
redirection, the program's standard input and output apart. -/
structure Confines (host : Host World File Place) (command : Command) (mode : Mode)
    (shell : Supervisor World File Place) : Prop where
  /-- After a launch, whatever it came to, the shell's files are those from before. -/
  kept : (shell.launch host command mode).2.attributes.descriptors = shell.attributes.descriptors
  /-- What a launch came to is what the system made of the child that was asked for. -/
  created : shell.launch host command mode =
    shell.created host (shell.creation host command mode)
  /-- If this child becomes a program, then from number 2 on the program has open what the shell
  has, except for what closes on exec. -/
  program : ∀ arguments program world,
    shell.creation host command mode = .ok (.runs arguments program, world) →
    ∀ number, 2 ≤ number → ∀ entry,
      program.descriptors.get number = some entry ↔
        shell.attributes.descriptors.get number = some entry ∧ entry.closeOnExec = false

/-- **Files that are opened for a redirection leak neither into the shell nor into the program**,
whichever files were open, whatever could be opened and whatever became of the launch. -/
theorem launch_confines (host : Host World File Place) (command : Command) (mode : Mode)
    (shell : Supervisor World File Place) : shell.Confines host command mode := by
  refine ⟨?kept, launch_eq_created host command mode shell, ?program⟩
  case kept => rw [(undisturbed_launch host command mode shell).attributes]
  case program =>
    intro arguments program world hcreation number hnumber entry
    obtain ⟨vector, hchild⟩ := childWith_of_creation hcreation
    have hne : ∀ stream : Stream, number ≠ stream.number := by
      intro stream
      have hstream := Descriptors.number_le_one stream
      omega
    have hprogram := Host.get_of_fate_runs (congrArg Prod.fst hchild) hne
    have hreleased := Host.release_redirect host command mode shell.attributes.place
      shell.attributes.descriptors shell.world
    rw [Attributes.ofChild, hreleased, Descriptors.get_afterExec] at hprogram
    rw [hprogram, Option.filter_eq_some_iff]
    simp

/-- A shell that was started without standard input and output. Of its two other files, the second
one closes on exec. -/
def bareShell : Supervisor Nat (Stream × Bytes) Unit where
  attributes :=
    { descriptors :=
        { get := fun number =>
            if number = 2 then some ⟨(.output, [50]), false⟩
            else if number = 3 then some ⟨(.output, [51]), true⟩
            else none
          limit := 8 }
      dispositions := .atStart
      place := () }
  world := 5

/-- The files of the redirections take the numbers of the streams, and the program has one other
file open. -/
theorem launch_confines_with_streams_closed :
    ∃ program, bareShell.creation Host.granting .bothRedirected .foreground =
        .ok (.runs [Text.utf8 "cat"] program, 5) ∧
      program.descriptors.get 2 = some ⟨(.output, [50]), false⟩ ∧
      (∀ number, 2 < number → program.descriptors.get number = none) ∧
      (bareShell.launch Host.granting .bothRedirected .foreground).2.attributes.descriptors =
        bareShell.attributes.descriptors := by
  have hconfines := launch_confines Host.granting .bothRedirected .foreground bareShell
  refine ⟨_, rfl, ?_, ?_, hconfines.kept⟩
  · exact (hconfines.program _ _ _ rfl 2 (by decide) _).2 ⟨rfl, rfl⟩
  · intro number hnumber
    rw [Option.eq_none_iff_forall_ne_some]
    intro entry hentry
    obtain ⟨hopen, hkept⟩ := (hconfines.program _ _ _ rfl number (by omega) entry).1 hentry
    have htwo : number ≠ 2 := by omega
    by_cases hthree : number = 3
    · subst hthree
      cases hopen
      cases hkept
    · simp [bareShell, htwo, hthree] at hopen

end Supervisor

end JobShell
