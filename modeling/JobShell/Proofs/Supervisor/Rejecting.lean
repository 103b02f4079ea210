import JobShell.Proofs.Supervisor.Launching

/-!
# JobShell.Proofs.Supervisor.Rejecting — which commands are started

A launch checks the arguments of its command before it opens a file, and takes whatever the names
of the files are: a file that cannot be opened is the business of the child.

* `ArgumentVector.of_eq`: a vector of arguments fails with the first argument that has a NUL byte.
* `Supervisor.creation`: the child that a launch asks the system for, if it does.
* `Supervisor.launch_judges`: which commands are rejected, without a trace, and what the children of
  the others report about names with NUL bytes.
-/

namespace JobShell

/-! ## Arguments with NUL bytes -/

/-- Whether an argument has a NUL byte. -/
def hasNul (argument : String) : Bool :=
  (Text.utf8 argument).contains 0

theorem hasNul_iff {argument : String} : hasNul argument = true ↔ 0 ∈ Text.utf8 argument := by
  rw [hasNul, List.contains_iff_mem]

/-- Which argument is the first one with a NUL byte. -/
theorem find?_hasNul_iff {arguments : List String} {argument : String} :
    arguments.find? hasNul = some argument ↔
      ∃ before after, arguments = before ++ argument :: after ∧
        (∀ other ∈ before, 0 ∉ Text.utf8 other) ∧ 0 ∈ Text.utf8 argument := by
  rw [List.find?_eq_some_iff_append]
  constructor
  · rintro ⟨hargument, before, after, rfl, hbefore⟩
    refine ⟨before, after, rfl, ?_, hasNul_iff.1 hargument⟩
    intro other hmem
    rw [← hasNul_iff]
    simpa using hbefore other hmem
  · rintro ⟨before, after, rfl, hbefore, hargument⟩
    refine ⟨hasNul_iff.2 hargument, before, after, rfl, ?_⟩
    intro other hmem
    have hother := hbefore other hmem
    rw [← hasNul_iff] at hother
    simpa using hother

theorem exists_find?_hasNul {arguments : List String}
    (h : ∃ argument ∈ arguments, 0 ∈ Text.utf8 argument) :
    ∃ argument, arguments.find? hasNul = some argument := by
  rw [← Option.isSome_iff_exists, List.find?_isSome]
  obtain ⟨argument, hmem, hnul⟩ := h
  exact ⟨argument, hmem, hasNul_iff.2 hnul⟩

/-- Bytes with a NUL byte are not taken. -/
theorem nulTerminated_eq_error {bytes : Bytes} (h : 0 ∈ bytes) :
    ∃ failure, nulTerminated bytes = .error failure := by
  cases hfind : bytes.findIdx? (· == 0) with
  | none =>
    have hnot := List.findIdx?_eq_none_iff.1 hfind 0 h
    simp at hnot
  | some position => exact ⟨.nulByte position, by rw [nulTerminated, hfind]⟩

namespace ArgumentVector

/-- A vector of arguments fails with the first of them that has a NUL byte. -/
theorem of_eq_error {arguments : List String} {argument : String}
    (h : arguments.find? hasNul = some argument) : of arguments = .error argument := by
  have hfails : (arguments.mapM fun argument =>
      (nulTerminated (Text.utf8 argument)).mapError fun _ => argument) = .error argument := by
    induction arguments with
    | nil => cases h
    | cons first rest ih =>
      cases hfirst : hasNul first with
      | true =>
        rw [List.find?_cons_of_pos hfirst] at h
        cases h
        obtain ⟨failure, hfailure⟩ := nulTerminated_eq_error (hasNul_iff.1 hfirst)
        rw [List.mapM_cons, hfailure]
        rfl
      | false =>
        rw [List.find?_cons_of_neg (by simp [hfirst])] at h
        have hfree : 0 ∉ Text.utf8 first := by
          rw [← hasNul_iff, hfirst]
          decide
        rw [List.mapM_cons, nulTerminated_eq_ok hfree, ih h]
        rfl
  rw [of, hfails]
  rfl

end ArgumentVector

variable {World File Place : Type}

/-! ## Files with NUL bytes in their names -/

namespace Host

variable {host : Host World File Place} {stream : Stream} {path : String} {place : Place}
  {table : Descriptors File} {world : World}

/-- Nobody is asked for a file with a NUL byte in its name. -/
theorem openFile_of_nul (h : 0 ∈ Text.utf8 path) :
    host.openFile stream path place table world = (.error .nulInFileName, world) := by
  simp [openFile, h]

/-- What is open stays open when the file of a redirection is opened. -/
theorem file?_bind {asked : Option String} {number : Nat} {file : File}
    (h : table.file? number = some file) :
    (host.bind stream asked place table world).2.1.file? number = some file := by
  rcases host.opens_or_refused stream asked place table world with
    ⟨other, opened, after, hopens⟩ | ⟨name, failure, after, rfl, hrefused⟩
  · obtain ⟨binding, hplaces, hbind⟩ := hopens.bind_eq
    rw [hbind]
    cases hplaces with
    | inherit => exact h
    | @opened free other hfree =>
      have hother : number ≠ free := by
        rintro rfl
        rw [Descriptors.file?, (Descriptors.lowestFree?_eq_some hfree).1] at h
        cases h
      rw [Descriptors.file?, Descriptors.get_set_of_ne _ _ hother]
      exact h
  · rw [bind_of_refused hrefused]
    exact h

end Host

/-! ## The child that is asked for -/

namespace Supervisor

/-- The child of a command with a given argument vector: its fate, and the state of the system when
the command's files have been opened. -/
def childWith (host : Host World File Place) (command : Command) (mode : Mode)
    (vector : ArgumentVector) (shell : Supervisor World File Place) : Fate File Place × World :=
  let opened := host.redirect command mode shell.attributes.place shell.attributes.descriptors
    shell.world
  let child := { shell.attributes with descriptors := opened.2.1 }.ofChild mode
  (host.fate opened.2.2 command.program vector opened.1 child, opened.2.2)

/-- The child that a launch asks the system for, or why there is to be none. -/
def creation (host : Host World File Place) (command : Command) (mode : Mode)
    (shell : Supervisor World File Place) : Except ShellError (Fate File Place × World) :=
  if command.arguments = [] then .error .emptyCommand
  else
    match command.arguments.find? hasNul with
    | some argument => .error (.invalidArgument argument)
    | none =>
      let strings := command.arguments.map fun argument => Text.utf8 argument ++ [0]
      .ok (shell.childWith host command mode (ArgumentVector.ofTerminated strings))

/-- A launch comes to what the system makes of the child that it asks for. -/
def created (host : Host World File Place) (shell : Supervisor World File Place) :
    Except ShellError (Fate File Place × World) →
      Except ShellError Pid × Supervisor World File Place
  | .error error => (.error error, shell)
  | .ok (fate, world) =>
    match host.spawn fate world with
    | (.error errno, world) => (.error (.fork (.os errno)), { shell with world })
    | (.ok pid, world) => (.ok pid, { shell with world, children := shell.children ++ [{ pid }] })

variable (host : Host World File Place) (command : Command) (mode : Mode)
  (shell : Supervisor World File Place)

theorem launch_eq_created :
    shell.launch host command mode = shell.created host (shell.creation host command mode) := by
  by_cases hempty : command.arguments = []
  · have hcommand : command.isEmpty = true := by simp [Command.isEmpty, hempty]
    rw [launch, if_pos hcommand, creation, if_pos hempty]
    rfl
  · have hcommand : ¬command.isEmpty = true := by simpa [Command.isEmpty] using hempty
    cases hfind : command.arguments.find? hasNul with
    | some argument =>
      rw [launch, if_neg hcommand, ArgumentVector.of_eq_error hfind, creation, if_neg hempty, hfind]
      rfl
    | none =>
      have hfree : ∀ argument ∈ command.arguments, 0 ∉ Text.utf8 argument := by
        intro argument hmem
        rw [← hasNul_iff]
        exact List.find?_eq_none.1 hfind argument hmem
      rw [launch_eq hcommand (ArgumentVector.of_eq_ok hfree) rfl, creation, if_neg hempty, hfind]
      rfl

/-! ## What it reports -/

/-- The file of a redirection cannot be opened by the shell. -/
def Refused (stream : Stream) (path : String) : Prop :=
  ∃ failure, (host.openFile stream path shell.attributes.place shell.attributes.descriptors
    shell.world).1 = .error failure

/-- A child reports that the file of a redirection cannot be opened, to the shell's own output if
that is open. -/
def Reports (stream : Stream) (path : String) (fate : Fate File Place) : Prop :=
  ∃ output, fate = .fails (stream.openFailure path) output ∧
    ∀ own, shell.output = some own → output = some own

variable {host command mode shell}

/-- If a file of its redirections is not there, a child reports the one whose message comes
first. -/
theorem reports_of_failure {stream : Stream} {path : String} (vector : ArgumentVector)
    (hfailure : (host.redirect command mode shell.attributes.place shell.attributes.descriptors
      shell.world).1.failure? = some (stream.openFailure path)) :
    shell.Reports stream path (shell.childWith host command mode vector).1 := by
  simp only [childWith, Host.fate, Redirections.installOrFail_of_failure hfailure]
  refine ⟨_, rfl, ?_⟩
  intro own hown
  exact Host.file?_bind (Host.file?_bind hown)

/-- A child reports that its output file cannot be opened, whatever its input file is. -/
theorem reports_output {path : String} (vector : ArgumentVector)
    (hasked : command.output = some path) (hrefused : shell.Refused host .output path) :
    shell.Reports .output path (shell.childWith host command mode vector).1 := by
  obtain ⟨failure, hfailure⟩ := hrefused
  refine reports_of_failure vector ?_
  have hbind := Host.bind_of_refused (Prod.ext hfailure rfl)
  simp only [Redirections.failure?, Host.redirect, hasked, hbind]
  rfl

/-- A child reports a NUL byte in the name of its input file if nothing is wrong with its output
file. -/
theorem reports_input {path : String} (vector : ArgumentVector)
    (hasked : command.input = some path) (hnul : 0 ∈ Text.utf8 path)
    (hready : ∀ other, command.output = some other → ¬shell.Refused host .output other) :
    shell.Reports .input path (shell.childWith host command mode vector).1 := by
  have hinput : command.inputPath mode = some path := by
    cases mode <;> simp [Command.inputPath, hasked]
  refine reports_of_failure vector ?_
  rcases host.opens_or_refused .output command.output shell.attributes.place
    shell.attributes.descriptors shell.world with
    ⟨output, table, middle, houtput⟩ | ⟨other, failure, after, hother, hrefused⟩
  · obtain ⟨binding, hplaces, hbind⟩ := houtput.bind_eq
    have hfree : binding.failure? = none := by cases hplaces <;> rfl
    simp only [Redirections.failure?, Host.redirect, hbind, hinput,
      Host.bind_of_refused (Host.openFile_of_nul hnul), hfree]
    rfl
  · exact absurd ⟨failure, congrArg Prod.fst hrefused⟩ (hready other hother)

/-- Which commands are started and which are not. -/
structure Judges (host : Host World File Place) (command : Command) (mode : Mode)
    (shell : Supervisor World File Place) : Prop where
  /-- A command without arguments is rejected as empty, and no other one. -/
  empty : (shell.launch host command mode).1 = .error .emptyCommand ↔ command.arguments = []
  /-- A command is rejected for the first of its arguments that has a NUL byte, and no other one. -/
  invalid : ∀ argument,
    (shell.launch host command mode).1 = .error (.invalidArgument argument) ↔
      ∃ before after, command.arguments = before ++ argument :: after ∧
        (∀ other ∈ before, 0 ∉ Text.utf8 other) ∧ 0 ∈ Text.utf8 argument
  /-- A command that is rejected changes nothing. -/
  traceless : command.arguments = [] ∨ (∃ argument ∈ command.arguments, 0 ∈ Text.utf8 argument) →
    (shell.launch host command mode).2 = shell
  /-- Any other command gets a child, if the system creates one. -/
  started : command.arguments ≠ [] → (∀ argument ∈ command.arguments, 0 ∉ Text.utf8 argument) →
    ∃ fate world, shell.creation host command mode = .ok (fate, world) ∧
      shell.launch host command mode = shell.created host (.ok (fate, world))
  /-- Its child reports a NUL byte in the name of its output file. -/
  output : ∀ fate world path, shell.creation host command mode = .ok (fate, world) →
    command.output = some path → 0 ∈ Text.utf8 path → shell.Reports .output path fate
  /-- Its child reports a NUL byte in the name of its input file, unless the output file cannot be
  opened: then it reports that one. -/
  input : ∀ fate world path, shell.creation host command mode = .ok (fate, world) →
    command.input = some path → 0 ∈ Text.utf8 path →
    ((∀ other, command.output = some other → ¬shell.Refused host .output other) →
      shell.Reports .input path fate) ∧
    ∀ other, command.output = some other → shell.Refused host .output other →
      shell.Reports .output other fate
  /-- On a machine, a child that reports does nothing else and exits with code 1. -/
  fails : ∀ message output, Machine.FailsAtOnce message output

/-- What the system makes of a child is no rejection. -/
theorem created_rejects_iff {asked : Except ShellError (Fate File Place × World)}
    {error : ShellError} (hfork : ∀ failure, error ≠ .fork failure) :
    (shell.created host asked).1 = .error error ↔ asked = .error error := by
  cases asked with
  | error reason => simp [created]
  | ok child =>
    obtain ⟨fate, world⟩ := child
    rcases hspawn : host.spawn fate world with ⟨errno | pid, after⟩
    · simp [created, hspawn, (hfork _).symm]
    · simp [created, hspawn]

theorem creation_eq_emptyCommand_iff :
    shell.creation host command mode = .error .emptyCommand ↔ command.arguments = [] := by
  by_cases hempty : command.arguments = []
  · simp [creation, hempty]
  · cases hfind : command.arguments.find? hasNul <;> simp [creation, hempty, hfind]

theorem creation_eq_invalidArgument_iff {argument : String} :
    shell.creation host command mode = .error (.invalidArgument argument) ↔
      command.arguments.find? hasNul = some argument := by
  by_cases hempty : command.arguments = []
  · simp [creation, hempty]
  · cases hfind : command.arguments.find? hasNul <;> simp [creation, hempty, hfind]

theorem exists_creation (hempty : command.arguments ≠ [])
    (hnul : ∀ argument ∈ command.arguments, 0 ∉ Text.utf8 argument) :
    ∃ fate world, shell.creation host command mode = .ok (fate, world) := by
  have hfind : command.arguments.find? hasNul = none := by
    rw [List.find?_eq_none]
    intro argument hmem
    rw [hasNul_iff]
    exact hnul argument hmem
  rw [creation, if_neg hempty, hfind]
  exact ⟨_, _, rfl⟩

theorem childWith_of_creation {fate : Fate File Place} {world : World}
    (h : shell.creation host command mode = .ok (fate, world)) :
    ∃ vector, shell.childWith host command mode vector = (fate, world) := by
  by_cases hempty : command.arguments = []
  · simp [creation, hempty] at h
  · cases hfind : command.arguments.find? hasNul with
    | some argument => simp [creation, hempty, hfind] at h
    | none =>
      rw [creation, if_neg hempty, hfind] at h
      exact ⟨_, Except.ok.inj h⟩

/-- **A command is rejected for its arguments only, and then nothing has happened.** The names of
its files are the business of its child. -/
theorem launch_judges (host : Host World File Place) (command : Command) (mode : Mode)
    (shell : Supervisor World File Place) : shell.Judges host command mode := by
  have hlaunch := launch_eq_created host command mode shell
  refine
    { empty := ?empty
      invalid := ?invalid
      traceless := ?traceless
      started := ?started
      output := ?output
      input := ?input
      fails := Machine.failsAtOnce }
  case empty =>
    rw [hlaunch, created_rejects_iff (by simp), creation_eq_emptyCommand_iff]
  case invalid =>
    intro argument
    rw [hlaunch, created_rejects_iff (by simp), creation_eq_invalidArgument_iff, find?_hasNul_iff]
  case traceless =>
    intro hrejected
    obtain ⟨error, hcreation⟩ : ∃ error, shell.creation host command mode = .error error := by
      rcases hrejected with hempty | hnul
      · exact ⟨_, creation_eq_emptyCommand_iff.2 hempty⟩
      · obtain ⟨argument, hfind⟩ := exists_find?_hasNul hnul
        exact ⟨_, creation_eq_invalidArgument_iff.2 hfind⟩
    rw [hlaunch, hcreation]
    rfl
  case started =>
    intro hempty hnul
    obtain ⟨fate, world, hcreation⟩ := exists_creation hempty hnul
    exact ⟨fate, world, hcreation, by rw [hlaunch, hcreation]⟩
  case output =>
    intro fate world path hcreation hasked hnul
    obtain ⟨vector, hchild⟩ := childWith_of_creation hcreation
    have hrefused : shell.Refused host .output path :=
      ⟨_, congrArg Prod.fst (Host.openFile_of_nul hnul)⟩
    have hfate : (shell.childWith host command mode vector).1 = fate := congrArg Prod.fst hchild
    rw [← hfate]
    exact reports_output vector hasked hrefused
  case input =>
    intro fate world path hcreation hasked hnul
    obtain ⟨vector, hchild⟩ := childWith_of_creation hcreation
    have hfate : (shell.childWith host command mode vector).1 = fate := congrArg Prod.fst hchild
    rw [← hfate]
    refine ⟨fun hready => reports_input vector hasked hnul hready, ?_⟩
    intro other hother hrefused
    exact reports_output vector hother hrefused

/-- The first argument with a NUL byte is named, and the output file is not even looked for. -/
theorem launch_rejects_second_argument :
    let command : Command := { arguments := ["cat", "a\x00", "\x00b"], output := some "out" }
    openShell.launch Host.granting command .background =
      (.error (.invalidArgument "a\x00"), openShell) := by
  intro command
  have hjudges := launch_judges Host.granting command .background openShell
  have hinvalid := (hjudges.invalid "a\x00").2 ⟨["cat"], ["\x00b"], rfl, by decide, by decide⟩
  have htraceless := hjudges.traceless (.inr ⟨"a\x00", by decide, by decide⟩)
  exact Prod.ext hinvalid htraceless

/-- A command whose output file is a directory, and whose input file has a NUL byte in its name. -/
def misdirected : Command :=
  { arguments := ["cat"], input := some "a\x00b", output := some "d" }

/-- A system that opens no file for writing. -/
def readOnly : Host Nat (Stream × Bytes) Unit :=
  { Host.granting with openOutput := fun _ _ world => (.error .isDirectory, world) }

/-- The child says nothing about the NUL byte, since it reports the output file. -/
theorem nul_in_input_path_goes_unreported :
    misdirected.input = some "a\x00b" ∧ 0 ∈ Text.utf8 "a\x00b" ∧
      ∃ fate, openShell.creation readOnly misdirected .foreground = .ok (fate, 5) ∧
        (openShell.launch readOnly misdirected .foreground).1 = .ok ⟨5⟩ ∧
        fate = .fails "smallsh: cannot open d for output\n" (some (.input, [])) ∧
        ¬openShell.Reports .input "a\x00b" fate := by
  refine ⟨rfl, by decide, .fails "smallsh: cannot open d for output\n" (some (.input, [])), ?_, ?_,
    rfl, ?_⟩
  · rfl
  · rfl
  · rintro ⟨output, hfate, -⟩
    injection hfate with hmessage
    exact absurd hmessage (by decide)

end Supervisor

end JobShell
