import JobShell.Machine.Run
import JobShell.Proofs.Redirect.Rebinding
import JobShell.Proofs.Supervisor.Restoring

/-!
# JobShell.Proofs.Supervisor.Launching — what becomes of a command that is started

The shell opens the files of a command's redirections and only the child finds out what that came
to. So a launch in a shell whose streams are open never fails for want of a file or of a program:
there is a child, and `Host.Destined` says what it does. It reports the output file, or else the
input file, or else the program, or it becomes the program.

* `ArgumentVector.read_of`: what a program reads of its argument vector.
* `Supervisor.launch_eq`: a launch is the creation of one child with one fate, and nothing else
  about the shell's process changes.
* `Host.destined_iff`: that fate is the one the command is destined to, and there is no other.
* `Machine.failsAtOnce`: on the machine, a child that is to fail writes its message and exits.
-/

namespace JobShell

/-! ## Argument vectors -/

/-- Bytes without a NUL byte are taken as they are. -/
theorem nulTerminated_eq_ok {bytes : Bytes} (h : 0 ∉ bytes) :
    nulTerminated bytes = .ok (bytes ++ [0]) := by
  have hnone : bytes.findIdx? (· == 0) = none := by
    rw [List.findIdx?_eq_none_iff]
    intro byte hbyte
    simpa using ne_of_mem_of_not_mem hbyte h
  rw [nulTerminated, hnone]

namespace ArgumentVector

/-- A string ends where its NUL byte was put. -/
theorem string_append_nul {bytes : Bytes} (h : 0 ∉ bytes) : string (bytes ++ [0]) = bytes := by
  have hbytes : ∀ byte ∈ bytes, (byte != 0) = true := by
    intro byte hbyte
    simpa using ne_of_mem_of_not_mem hbyte h
  rw [string, List.takeWhile_append_of_pos hbytes]
  simp

/-- A program reads all strings of a vector, since only its end is a null pointer. -/
theorem read_ofTerminated (strings : List Bytes) :
    read (ofTerminated strings) = strings.map string := by
  induction strings with
  | nil => rfl
  | cons bytes strings ih => exact congrArg (string bytes :: ·) ih

variable {arguments : List String}

/-- Arguments without NUL bytes have a vector. -/
theorem of_eq_ok (h : ∀ argument ∈ arguments, 0 ∉ Text.utf8 argument) :
    of arguments =
      .ok (ofTerminated (arguments.map fun argument => Text.utf8 argument ++ [0])) := by
  have hstrings : (arguments.mapM fun argument =>
      (nulTerminated (Text.utf8 argument)).mapError fun _ => argument) =
        .ok (arguments.map fun argument => Text.utf8 argument ++ [0]) := by
    induction arguments with
    | nil => rfl
    | cons argument arguments ih =>
      have hrest := ih fun other hother => h other (List.mem_cons_of_mem _ hother)
      rw [List.mapM_cons, nulTerminated_eq_ok (h argument List.mem_cons_self), hrest]
      rfl
  rw [of, hstrings]
  rfl

/-- A program reads the arguments that its vector was made of. -/
theorem read_of (h : ∀ argument ∈ arguments, 0 ∉ Text.utf8 argument) :
    ∃ vector, of arguments = .ok vector ∧ vector.read = arguments.map Text.utf8 := by
  refine ⟨_, of_eq_ok h, ?_⟩
  rw [read_ofTerminated, List.map_map]
  apply List.map_congr_left
  intro argument hargument
  exact string_append_nul (h argument hargument)

end ArgumentVector

variable {World File Place : Type}

/-! ## One child -/

/-- A launch that has an argument vector creates one child, if the system does, and changes nothing
else of the shell's process. -/
theorem Supervisor.launch_eq {host : Host World File Place} {command : Command} {mode : Mode}
    {shell : Supervisor World File Place} {vector : ArgumentVector} {redirections : Redirections}
    {table : Descriptors File} {world : World} (hcommand : ¬command.isEmpty)
    (hvector : ArgumentVector.of command.arguments = .ok vector)
    (hopened : host.redirect command mode shell.attributes.place shell.attributes.descriptors
      shell.world = (redirections, table, world)) :
    shell.launch host command mode =
      match host.spawn (host.fate world command.program vector redirections
        ({ shell.attributes with descriptors := table }.ofChild mode)) world with
      | (.error errno, world) => (.error (.fork (.os errno)), { shell with world })
      | (.ok pid, world) =>
        (.ok pid, { shell with world, children := shell.children ++ [{ pid }] }) := by
  have hclosed := Host.release_redirect host command mode shell.attributes.place
    shell.attributes.descriptors shell.world
  rw [hopened] at hclosed
  have hshell : shell.withDescriptors (redirections.release table) = shell := by
    rw [withDescriptors, hclosed]
  rcases hspawn : host.spawn (host.fate world command.program vector redirections
    ({ shell.attributes with descriptors := table }.ofChild mode)) world with ⟨errno | pid, after⟩
  all_goals simp only [launch, if_neg hcommand, hvector, hopened, hshell, hspawn]

/-! ## Its fate -/

namespace Attributes

/-- The state of a child that has led its streams to the files that were opened. -/
def rebound (shell : Attributes File Place) (mode : Mode) (output input : Option File) :
    Attributes File Place :=
  { shell.ofChild mode with
    descriptors := (shell.descriptors.lead .output output).lead .input input }

end Attributes

/-- What a command that is started in a shell of given attributes is destined to. What goes wrong
first is what the child reports. -/
inductive Host.Destined (host : Host World File Place) (command : Command) (mode : Mode)
    (shell : Attributes File Place) (world : World) : Fate File Place → Prop where
  /-- The output file cannot be opened, and the shell's own output says so. -/
  | noOutput {path : String} {failure : Failure} {after : World}
      (asked : command.output = some path)
      (refused : host.openFile .output path shell.place shell.descriptors world =
        (.error failure, after)) :
      Destined host command mode shell world
        (.fails ("smallsh: cannot open " ++ path ++ " for " ++ "output" ++ "\n")
          (shell.descriptors.file? Descriptors.standardOutput))
  /-- The input file cannot be opened, and the shell's own output says so, whatever has been opened
  for the command's output. -/
  | noInput {output : Option File} {opened : Descriptors File} {middle after : World}
      {path : String} {failure : Failure}
      (outputOpens : host.Opens .output shell.place shell.descriptors world command.output output
        opened middle)
      (asked : command.inputPath mode = some path)
      (refused : host.openFile .input path shell.place opened middle = (.error failure, after)) :
      Destined host command mode shell world
        (.fails ("smallsh: cannot open " ++ path ++ " for " ++ "input" ++ "\n")
          (shell.descriptors.file? Descriptors.standardOutput))
  /-- There is no such program, and the output of the command says so. -/
  | noProgram {output input : Option File} {opened both : Descriptors File} {middle after : World}
      {errno : Errno}
      (outputOpens : host.Opens .output shell.place shell.descriptors world command.output output
        opened middle)
      (inputOpens : host.Opens .input shell.place opened middle (command.inputPath mode) input
        both after)
      (refused : host.exec after (shell.rebound mode output input)
        (command.arguments.map Text.utf8) = .error errno) :
      Destined host command mode shell world
        (.fails (command.program ++ ": no such file or directory\n")
          (output.or (shell.descriptors.file? Descriptors.standardOutput)))
  /-- The child becomes the program, with the command's arguments. -/
  | program {output input : Option File} {opened both : Descriptors File} {middle after : World}
      (outputOpens : host.Opens .output shell.place shell.descriptors world command.output output
        opened middle)
      (inputOpens : host.Opens .input shell.place opened middle (command.inputPath mode) input
        both after)
      (runs : host.exec after (shell.rebound mode output input)
        (command.arguments.map Text.utf8) = .ok ()) :
      Destined host command mode shell world
        (.runs (command.arguments.map Text.utf8) (shell.rebound mode output input).afterExec)

/-- A file that could not be opened is reported before any stream has been touched. -/
theorem Redirections.installOrFail_of_failure {redirections : Redirections} {message : String}
    (h : redirections.failure? = some message) (child : Attributes File Place) :
    redirections.installOrFail child = .error (child.failing message) := by
  rw [installOrFail, install, h]

namespace Host

variable {host : Host World File Place} {command : Command} {mode : Mode}
  {shell : Attributes File Place} {world after : World} {vector : ArgumentVector}
  {redirections : Redirections} {table : Descriptors File}

/-- Whatever opening the file of a redirection comes to, the streams are where they were. -/
theorem get_stream_bind (hstreams : table.StreamsOpen) (stream other : Stream)
    (path : Option String) (place : Place) (world : World) :
    (host.bind stream path place table world).2.1.get other.number = table.get other.number := by
  rcases host.opens_or_refused stream path place table world with
    ⟨file, opened, after, hopens⟩ | ⟨name, failure, after, rfl, hrefused⟩
  · obtain ⟨binding, hplaces, hbind⟩ := hopens.bind_eq
    rw [hbind]
    exact (hplaces.adds hstreams).get_stream other
  · rw [bind_of_refused hrefused]

/-- A child that has a file missing reports that where the shell's own output leads. -/
theorem fate_of_failure {message : String} (hfailure : redirections.failure? = some message)
    (houtput : table.get Stream.output.number = shell.descriptors.get Stream.output.number) :
    host.fate after command.program vector redirections
        ({ shell with descriptors := table }.ofChild mode) =
      .fails message (shell.descriptors.file? Descriptors.standardOutput) := by
  rw [fate, Redirections.installOrFail_of_failure hfailure]
  change Fate.fails message ((table.get Stream.output.number).map _) = _
  rw [houtput]
  rfl

/-- A child whose files are there leads its streams to them. -/
theorem installOrFail_of_opens {output input : Option File} {opened both : Descriptors File}
    {middle : World} (hstreams : shell.descriptors.StreamsOpen)
    (houtput : host.Opens .output shell.place shell.descriptors world command.output output opened
      middle)
    (hinput : host.Opens .input shell.place opened middle (command.inputPath mode) input both
      after) :
    ∃ redirections,
      host.redirect command mode shell.place shell.descriptors world =
        (redirections, both, after) ∧
      redirections.installOrFail ({ shell with descriptors := both }.ofChild mode) =
        .ok (shell.rebound mode output input) := by
  obtain ⟨outputBinding, houtputPlaces, houtputBind⟩ := houtput.bind_eq
  obtain ⟨inputBinding, hinputPlaces, hinputBind⟩ := hinput.bind_eq
  refine ⟨⟨inputBinding, outputBinding⟩, by simp only [redirect, houtputBind, hinputBind], ?_⟩
  have hinstall := Redirections.install_eq_lead hstreams houtputPlaces hinputPlaces
  simp only [Redirections.installOrFail, Attributes.ofChild, hinstall, Attributes.rebound]

/-- A child does what its command is destined to. -/
theorem Destined.eq_fate (hstreams : shell.descriptors.StreamsOpen)
    (hread : vector.read = command.arguments.map Text.utf8)
    (hopened : host.redirect command mode shell.place shell.descriptors world =
      (redirections, table, after)) {fate : Fate File Place}
    (h : host.Destined command mode shell world fate) :
    fate = host.fate after command.program vector redirections
      ({ shell with descriptors := table }.ofChild mode) := by
  cases h with
  | @noOutput path failure middle asked refused =>
    simp only [redirect, asked, bind_of_refused refused, Prod.mk.injEq] at hopened
    obtain ⟨rfl, rfl, -⟩ := hopened
    exact (fate_of_failure rfl (get_stream_bind hstreams ..)).symm
  | @noInput output opened middle last path failure outputOpens asked refused =>
    obtain ⟨binding, hplaces, hbind⟩ := outputOpens.bind_eq
    simp only [redirect, hbind, asked, bind_of_refused refused, Prod.mk.injEq] at hopened
    obtain ⟨rfl, rfl, -⟩ := hopened
    have hready : binding.failure? = none := by cases hplaces <;> rfl
    refine (fate_of_failure ?_ ((hplaces.adds hstreams).get_stream .output)).symm
    rw [Redirections.failure?, hready]
    rfl
  | @noProgram output input opened both middle last errno outputOpens inputOpens refused =>
    obtain ⟨bindings, hredirect, hinstall⟩ :=
      installOrFail_of_opens hstreams outputOpens inputOpens
    simp only [hredirect, Prod.mk.injEq] at hopened
    obtain ⟨rfl, rfl, rfl⟩ := hopened
    simp only [fate, hinstall, hread, refused]
    rw [Attributes.failing, Attributes.rebound, Descriptors.file?_lead_lead]
    rfl
  | @program output input opened both middle last outputOpens inputOpens runs =>
    obtain ⟨bindings, hredirect, hinstall⟩ :=
      installOrFail_of_opens hstreams outputOpens inputOpens
    simp only [hredirect, Prod.mk.injEq] at hopened
    obtain ⟨rfl, rfl, rfl⟩ := hopened
    simp only [fate, hinstall, hread, runs]

/-- There is something that a command is destined to, whatever the system refuses. -/
theorem exists_destined (host : Host World File Place) (command : Command) (mode : Mode)
    (shell : Attributes File Place) (world : World) :
    ∃ fate, host.Destined command mode shell world fate := by
  rcases host.opens_or_refused .output command.output shell.place shell.descriptors world with
    ⟨output, opened, middle, houtput⟩ | ⟨path, failure, after, hasked, hrefused⟩
  · rcases host.opens_or_refused .input (command.inputPath mode) shell.place opened middle with
      ⟨input, both, after, hinput⟩ | ⟨path, failure, after, hasked, hrefused⟩
    · cases hexec : host.exec after (shell.rebound mode output input)
        (command.arguments.map Text.utf8) with
      | error errno => exact ⟨_, .noProgram houtput hinput hexec⟩
      | ok => exact ⟨_, .program houtput hinput hexec⟩
    · exact ⟨_, .noInput houtput hasked hrefused⟩
  · exact ⟨_, .noOutput hasked hrefused⟩

/-- **A child does the one thing that its command is destined to**, and its command is destined to
nothing else. -/
theorem destined_iff (hstreams : shell.descriptors.StreamsOpen)
    (hread : vector.read = command.arguments.map Text.utf8)
    (hopened : host.redirect command mode shell.place shell.descriptors world =
      (redirections, table, after)) (fate : Fate File Place) :
    host.Destined command mode shell world fate ↔
      fate = host.fate after command.program vector redirections
        ({ shell with descriptors := table }.ofChild mode) := by
  constructor
  · exact Destined.eq_fate hstreams hread hopened
  · rintro rfl
    obtain ⟨fate, hfate⟩ := host.exists_destined command mode shell world
    rwa [← hfate.eq_fate hstreams hread hopened]

end Host

/-! ## The end of a child that fails -/

namespace Machine

/-- What becomes of a message that is written to what may be an open file. -/
def delivery (message : Bytes) (output : Option Handle) (storage : Storage) : Delivery :=
  deliver .success (output.elim Sink.closed.results storage.writeResults) message

theorem report_eq (message : Bytes) (output : Option Handle) (storage : Storage) :
    report message output storage =
      (if (delivery message output storage).errno = .brokenPipe then .error .brokenPipe else .ok (),
        output.elim storage fun file =>
          storage.write file (delivery message output storage).delivered) := by
  cases output with
  | none => cases message <;> rfl
  | some file =>
    change (if (delivery message (some file) storage).errno = .brokenPipe
      then throw .brokenPipe else pure () : Task Unit)
        (storage.write file (delivery message (some file) storage).delivered) = _
    split <;> rfl

/-- A child that is to fail is created as one process, and its first turn is its last: it writes the
message to the file behind its standard output, if there is one, does nothing else, and exits with
code 1. Only a pipe that nobody reads from ends it another way. -/
def FailsAtOnce (message : String) (output : Option Handle) : Prop :=
  ∀ machine : Machine, ∃ process,
    (machine.spawn (.fails message output)).2.processes = machine.processes ++ [process] ∧
    ∀ elsewhere storage,
      let written := delivery (Text.utf8 message) output storage
      process.turn elsewhere storage =
        (.ended (if written.errno = .brokenPipe then .ofSignal .brokenPipe else .ofExit 1),
          output.elim storage fun file => storage.write file written.delivered)

theorem failsAtOnce (message : String) (output : Option Handle) : FailsAtOnce message output := by
  refine fun machine => ⟨_, rfl, fun elsewhere storage => ?_⟩
  simp only [Process.turn, Process.work?, bind, ExceptT.bind, ExceptT.mk, StateT.bind, report_eq]
  by_cases hbroken : (delivery (Text.utf8 message) output storage).errno = .brokenPipe
  · rw [if_pos hbroken, if_pos hbroken]
    rfl
  · rw [if_neg hbroken, if_neg hbroken]
    rfl

end Machine

/-! ## Launches -/

namespace Supervisor

/-- **No file and no program that is missing stops a launch.** In a shell that has its standard
input and output open, a command without NUL bytes in its arguments is always started if the system
creates a process: there is one child, it does the one thing that the command is destined to, and
nothing else about the shell's process changes. A child that is destined to fail does nothing but
that. -/
theorem launch_creates_destined_child (host : Host World File Place) (command : Command)
    (mode : Mode) (shell : Supervisor World File Place) (hcommand : command.arguments ≠ [])
    (hnul : ∀ argument ∈ command.arguments, 0 ∉ Text.utf8 argument)
    (hstreams : shell.attributes.descriptors.StreamsOpen)
    (hfork : ∀ fate, ∃ pid after, host.spawn fate (host.redirect command mode
      shell.attributes.place shell.attributes.descriptors shell.world).2.2 = (.ok pid, after)) :
    (∃ vector fate pid after,
      ArgumentVector.of command.arguments = .ok vector ∧
      vector.read = command.arguments.map Text.utf8 ∧
      (∀ other, host.Destined command mode shell.attributes shell.world other ↔ other = fate) ∧
      host.spawn fate (host.redirect command mode shell.attributes.place
        shell.attributes.descriptors shell.world).2.2 = (.ok pid, after) ∧
      shell.launch host command mode =
        (.ok pid, { shell with world := after, children := shell.children ++ [{ pid }] })) ∧
    ∀ message output, Machine.FailsAtOnce message output := by
  obtain ⟨vector, hvector, hread⟩ := ArgumentVector.read_of hnul
  rcases hopened : host.redirect command mode shell.attributes.place shell.attributes.descriptors
    shell.world with ⟨redirections, table, world⟩
  rw [hopened] at hfork
  obtain ⟨pid, after, hspawn⟩ := hfork (host.fate world command.program vector redirections
    ({ shell.attributes with descriptors := table }.ofChild mode))
  refine ⟨⟨vector, _, pid, after, hvector, hread, Host.destined_iff hstreams hread hopened, hspawn,
    ?_⟩, Machine.failsAtOnce⟩
  have hsome : ¬command.isEmpty := by simpa [Command.isEmpty] using hcommand
  rw [launch_eq hsome hvector hopened, hspawn]

/-- A shell that was started with its standard streams open and can open one more file. -/
def openShell : Supervisor Nat (Stream × Bytes) Unit where
  attributes :=
    { descriptors := .startedWith [0, 1, 2], dispositions := .atStart, place := () }
  world := 5

/-- There is no number left for the input file when the output file has been opened, and the child
reports that to the shell's own output. -/
theorem launch_creates_child_without_input :
    Command.bothRedirected.arguments ≠ [] ∧
      (∀ argument ∈ Command.bothRedirected.arguments, 0 ∉ Text.utf8 argument) ∧
      openShell.attributes.descriptors.StreamsOpen ∧
      ∃ vector fate pid after,
        ArgumentVector.of Command.bothRedirected.arguments = .ok vector ∧
        vector.read = [Text.utf8 "cat"] ∧
        fate = .fails "smallsh: cannot open in for input\n" (some (.input, [])) ∧
        Host.granting.spawn fate openShell.world = (.ok pid, after) ∧
        openShell.launch Host.granting .bothRedirected .foreground =
          (.ok pid, { openShell with world := after, children := [{ pid }] }) ∧
        ∀ output, Machine.FailsAtOnce "smallsh: cannot open in for input\n" output := by
  have hstreams : openShell.attributes.descriptors.StreamsOpen := by
    intro stream
    cases stream <;> decide
  obtain ⟨⟨vector, fate, pid, after, hvector, hread, hdestined, hspawn, hlaunch⟩, hfails⟩ :=
    launch_creates_destined_child Host.granting .bothRedirected .foreground openShell
      (by decide) (by decide) hstreams fun fate => ⟨⟨5⟩, 6, rfl⟩
  have hasked : Command.inputPath .bothRedirected .foreground = some "in" := rfl
  have houtput : Host.granting.Opens .output () openShell.attributes.descriptors openShell.world
      Command.bothRedirected.output (some (.output, Text.utf8 "out")) _ _ := .opened rfl
  have hfate := (hdestined _).1 (.noInput houtput hasked rfl)
  exact ⟨by decide, by decide, hstreams, vector, fate, pid, after, hvector, hread, hfate.symm,
    hspawn, hlaunch, hfails _⟩

end Supervisor

end JobShell
