import JobShell.Proofs.Child.Drain
import JobShell.Proofs.Command.Reading
import JobShell.Proofs.Shell.Reports
import JobShell.Proofs.Supervisor.Errors
import JobShell.Proofs.Text.Runs
import JobShell.Proofs.Text.Words

/-!
# JobShell.Proofs.Shell.Builtins — lines that the shell answers itself

The first word of a line decides whether it names a built-in, and then nothing else on the line is
looked at but the target of `cd`. No process is created for such a line, no file is opened, and what
is written goes to the shell's own streams.

* `execute_eq_exit_iff`: which lines end the shell.
* `Answered`: what each built-in comes to. `Supervisor.Shows` is what a stream gets of a text, and
  `Supervisor.Keeps` what a built-in leaves alone.
* `oneLine_report`: whatever has been carried out, `status` has one line to show.
-/

namespace JobShell

open Text

/-! ## The first word of a line -/

namespace Command

variable {line name : String} {rest : List String}

theorem arguments_read (hwords : Text.words line = name :: rest)
    (hname : Marker.isPlain name = true) :
    (read line).arguments = name :: (rest.takeWhile Marker.isPlain).take maxArguments := by
  rw [read, hwords, ofWords_eq, leadingArguments, List.takeWhile_cons_of_pos hname,
    List.take_succ_cons]

/-- The program is the first word, if that is no marker. -/
theorem program_read (hwords : Text.words line = name :: rest)
    (hname : Marker.isPlain name = true) : (read line).program = name := by
  rw [program, arguments_read hwords hname]
  rfl

/-- The first argument is the word behind the program, if that is no marker. -/
theorem firstArgument_read (hwords : Text.words line = name :: rest)
    (hname : Marker.isPlain name = true) : (read line).arguments[1]? = leadingFile rest := by
  rw [arguments_read hwords hname, leadingFile, ← List.head?_takeWhile]
  cases rest.takeWhile Marker.isPlain <;> rfl

/-- A line without words before its first marker has no program. -/
theorem program_read_of_marker
    (hwords : ∀ name ∈ (Text.words line).head?, Marker.isPlain name = false) :
    (read line).program = "" := by
  have hnone : leadingArguments (Text.words line) = [] := by
    cases hline : Text.words line with
    | nil => rfl
    | cons first rest =>
      have hfirst := hwords first (by simp [hline])
      rw [leadingArguments, List.takeWhile_cons_of_neg (by simp [hfirst]), List.take_nil]
  rw [program, read, ofWords_eq, hnone]
  rfl

/-- A line has a program of a given name exactly if this is its first word. -/
theorem program_read_eq_iff (hname : Marker.isPlain name = true) (hne : name ≠ "") :
    (read line).program = name ↔ (Text.words line).head? = some name := by
  constructor
  · intro h
    cases hline : Text.words line with
    | nil =>
      rw [program_read_of_marker (by simp [hline])] at h
      exact absurd h.symm hne
    | cons first rest =>
      cases hfirst : Marker.isPlain first with
      | true =>
        rw [program_read hline hfirst] at h
        rw [h]
        rfl
      | false =>
        rw [program_read_of_marker (by simp [hline, hfirst])] at h
        exact absurd h.symm hne
  · intro h
    obtain ⟨rest, hline⟩ := List.head?_eq_some_iff.1 h
    exact program_read hline hname

end Command

/-- A line with a word on it is ignored only if it is a comment. -/
theorem isIgnored_eq_false {line word : String} (hword : word ∈ Text.words line)
    (hcomment : line.toList.head? ≠ some '#') : isIgnored line = false := by
  obtain ⟨hne, hclean⟩ := isWord_of_mem_words hword
  obtain ⟨c, hc⟩ := List.exists_mem_of_ne_nil word.toList (by simpa using hne)
  have hblank : isBlankText line = false := by
    rw [isBlankText, List.all_eq_false]
    exact ⟨c, mem_toList_of_mem_words hword hc, by simp [hclean c hc]⟩
  simp [isIgnored, hblank, hcomment]

/-! ## Which lines end the shell -/

theorem Builtin.ofCommand?_eq_exit_iff {command : Command} :
    ofCommand? command = some .exit ↔ command.program = "exit" := by
  unfold ofCommand?
  split
  · next h => simp [h]
  · next h =>
    split
    · simp [h]
    · split <;> simp [h]

namespace Shell

variable {State : Type} {services : Services State} {line : String}

/-- Only a built-in ends the shell. -/
theorem flow_execute_eq_exit_iff (shell : Shell State) :
    (shell.execute services line).1 = .exit ↔
      isIgnored line = false ∧ Builtin.ofCommand? (Command.read line) = some .exit := by
  cases hbuiltin : Builtin.ofCommand? (Command.read line) with
  | some builtin =>
    cases hignored : isIgnored line with
    | true => simp [execute, hignored]
    | false =>
      rw [execute_builtin hignored hbuiltin]
      cases builtin <;> simp [answer]
  | none =>
    unfold execute
    simp only [hbuiltin]
    split
    · simp
    · split <;> simp

/-- A line ends the shell exactly if it is no comment and its first word is `exit`. -/
theorem execute_eq_exit_iff (shell : Shell State) :
    (shell.execute services line).1 = .exit ↔
      line.toList.head? ≠ some '#' ∧ (Text.words line).head? = some "exit" := by
  rw [flow_execute_eq_exit_iff, Builtin.ofCommand?_eq_exit_iff,
    Command.program_read_eq_iff (by decide) (by decide)]
  constructor
  · rintro ⟨hignored, hfirst⟩
    refine ⟨?_, hfirst⟩
    intro hcomment
    simp [isIgnored, hcomment] at hignored
  · rintro ⟨hcomment, hfirst⟩
    exact ⟨isIgnored_eq_false (List.mem_of_head? hfirst) hcomment, hfirst⟩

end Shell

/-! ## What a built-in does to the process -/

variable {World File Place : Type}

namespace Supervisor

/-- A text is shown on a stream: the file behind it, if there is one, takes what the calls that
write the text bring there. Nothing else is different, but for the number that the last failed call
left behind. -/
structure Shows (host : Host World File Place) (number : Nat) (text : String)
    (before after : Supervisor World File Place) : Prop where
  frame : after = { before with errno := after.errno, world := after.world }
  closed : before.attributes.descriptors.file? number = none → after.world = before.world
  /-- What the file takes is a beginning of the text, and all of it if every call succeeds. -/
  taken : ∀ file, before.attributes.descriptors.file? number = some file → ∃ taken,
    after.world = host.write file taken before.world ∧ taken <+: utf8 text ∧
    taken = (JobShell.deliver before.errno (host.writeResults before.world file)
      (utf8 text)).delivered ∧
    ((∀ result ∈ host.writeResults before.world file, result.Succeeds) → taken = utf8 text)

theorem shows_put (host : Host World File Place) (number : Nat) (text : String)
    (shell : Supervisor World File Place) :
    shell.Shows host number text (shell.put host number text) where
  frame := rfl
  closed := by
    intro hclosed
    simp [put, Host.deliverTo, hclosed]
  taken := by
    intro file hfile
    refine ⟨_, ?_, deliver_prefix shell.errno (host.writeResults shell.world file) (utf8 text), rfl,
      deliver_whole shell.errno (utf8 text)⟩
    simp [put, Host.deliverTo, Host.resultsOf, hfile]

/-- What a line that the shell answers itself leaves alone: the children, the reaper, the open
files, the signals, and the system below apart from what standard output or standard error took. -/
structure Keeps (host : Host World File Place) (before after : Supervisor World File Place) :
    Prop where
  children : after.children = before.children
  foreground : after.foreground = before.foreground
  reaperInstalled : after.reaperInstalled = before.reaperInstalled
  pending : after.pending = before.pending
  descriptors : after.attributes.descriptors = before.attributes.descriptors
  mask : after.attributes.mask = before.attributes.mask
  dispositions : after.attributes.dispositions = before.attributes.dispositions
  world : after.world = before.world ∨
    ∃ number ∈ [Descriptors.standardOutput, Descriptors.standardError], ∃ file taken,
      before.attributes.descriptors.file? number = some file ∧
        after.world = host.write file taken before.world

theorem Keeps.refl (host : Host World File Place) (shell : Supervisor World File Place) :
    shell.Keeps host shell :=
  ⟨rfl, rfl, rfl, rfl, rfl, rfl, rfl, .inl rfl⟩

/-- Showing a text only adds to the file behind the stream. -/
theorem Shows.keeps {host : Host World File Place} {number : Nat} {text : String}
    {before after : Supervisor World File Place} (h : before.Shows host number text after)
    (hnumber : number ∈ [Descriptors.standardOutput, Descriptors.standardError]) :
    before.Keeps host after := by
  have hworld : after.world = before.world ∨
      ∃ number ∈ [Descriptors.standardOutput, Descriptors.standardError], ∃ file taken,
        before.attributes.descriptors.file? number = some file ∧
          after.world = host.write file taken before.world := by
    cases hfile : before.attributes.descriptors.file? number with
    | none => exact .inl (h.closed hfile)
    | some file =>
      obtain ⟨taken, hwritten, -⟩ := h.taken file hfile
      exact .inr ⟨number, hnumber, file, taken, hfile, hwritten⟩
  rw [h.frame]
  exact ⟨rfl, rfl, rfl, rfl, rfl, rfl, rfl, hworld⟩

theorem keeps_withPlace (host : Host World File Place) (shell : Supervisor World File Place)
    (place : Place) : shell.Keeps host (shell.withPlace place) :=
  ⟨rfl, rfl, rfl, rfl, rfl, rfl, rfl, .inl rfl⟩

end Supervisor

namespace Shell

/-- What a built-in of a given name comes to, with the other words of its line. -/
inductive Answered (host : Host World File Place) (home : Option Bytes) (rest : List String)
    (shell : Shell (Supervisor World File Place)) :
    String → Flow × Shell (Supervisor World File Place) → Prop where
  /-- `exit` does nothing but end the shell. -/
  | exit : Answered host home rest shell "exit" (.exit, shell)
  /-- `status` shows the report on standard output. -/
  | status {after : Supervisor World File Place}
      (shows : shell.state.Shows host Descriptors.standardOutput (shell.last.report ++ "\n")
        after) :
      Answered host home rest shell "status" (.proceed, { shell with state := after })
  /-- `cd` goes to its first argument, or to the home directory if it has none. -/
  | moved {directory : Bytes} {place : Place}
      (target : ((leadingFile rest).map utf8).or home = some directory) (free : 0 ∉ directory)
      (enters : host.enter shell.state.world shell.state.attributes.place directory = .ok place) :
      Answered host home rest shell "cd"
        (.proceed, { shell with state := shell.state.withPlace place })
  /-- There is no home directory to go to, and standard error says so. -/
  | homeless {after : Supervisor World File Place}
      (target : ((leadingFile rest).map utf8).or home = none)
      (shows : shell.state.Shows host Descriptors.standardError
        "smallsh: cd: IO error: HOME not set\n" after) :
      Answered host home rest shell "cd" (.proceed, { shell with state := after })
  /-- The directory has a NUL byte in its name. -/
  | unnameable {directory : Bytes} {position : Nat} {after : Supervisor World File Place}
      (target : ((leadingFile rest).map utf8).or home = some directory)
      (found : directory.findIdx? (· == 0) = some position)
      (shows : shell.state.Shows host Descriptors.standardError
        ("smallsh: cd: IO error: nul byte at position " ++ Decimal.text position ++ "\n") after) :
      Answered host home rest shell "cd" (.proceed, { shell with state := after })
  /-- The directory cannot be entered. -/
  | refused {directory : Bytes} {errno : Errno} {after : Supervisor World File Place}
      (target : ((leadingFile rest).map utf8).or home = some directory) (free : 0 ∉ directory)
      (refuses : host.enter shell.state.world shell.state.attributes.place directory =
        .error errno)
      (shows : shell.state.Shows host Descriptors.standardError
        ("smallsh: cd: " ++ lossy directory ++ ": " ++ errno.message ++ "\n") after) :
      Answered host home rest shell "cd" (.proceed, { shell with state := after })

variable {host : Host World File Place} {home : Option Bytes} {rest : List String}
  {shell : Shell (Supervisor World File Place)}

/-- A built-in leaves the last status alone, and all of the process that it is not about. -/
theorem Answered.keeps {name : String} {after : Flow × Shell (Supervisor World File Place)}
    (h : Answered host home rest shell name after) :
    after.2.last = shell.last ∧ shell.state.Keeps host after.2.state := by
  cases h with
  | exit => exact ⟨rfl, .refl host shell.state⟩
  | moved => exact ⟨rfl, shell.state.keeps_withPlace host _⟩
  | status shows => exact ⟨rfl, shows.keeps (by simp)⟩
  | homeless _ shows | unnameable _ _ shows | refused _ _ _ shows =>
    exact ⟨rfl, shows.keeps (by simp)⟩

/-- What the user is told is shown on standard error, as one message. -/
theorem tell_services (host : Host World File Place) (patience : Nat) (home : Option Bytes)
    (message : String) (shell : Shell (Supervisor World File Place)) :
    ∃ after, shell.state.Shows host Descriptors.standardError ("smallsh: " ++ message ++ "\n")
        after ∧
      shell.tell (Supervisor.services host patience home) message =
        { shell with state := after } := by
  refine ⟨_, shell.state.shows_put host _ _, ?_⟩
  rw [tell, Log.userLines_eq]
  rfl

/-- Changing the directory comes to what `cd` does. -/
theorem answered_changeDirectory (patience : Nat) :
    Answered host home rest shell "cd" (.proceed,
      shell.changeDirectory (Supervisor.services host patience home) (leadingFile rest)) := by
  have hhome : (Supervisor.services host patience home).home = home := rfl
  cases htarget : ((leadingFile rest).map utf8).or home with
  | none =>
    obtain ⟨after, hshows, htold⟩ := shell.tell_services host patience home
      ("cd: " ++ (ShellError.io none .homeUnset).message)
    simp only [changeDirectory, hhome, htarget, htold]
    exact .homeless htarget hshows
  | some directory =>
    cases hfound : directory.findIdx? (· == 0) with
    | some position =>
      obtain ⟨after, hshows, htold⟩ := shell.tell_services host patience home
        ("cd: " ++ (ShellError.io none (.nulByte position)).message)
      simp only [changeDirectory, hhome, htarget, nulTerminated, hfound, htold]
      exact .unnameable htarget hfound hshows
    | none =>
      have hfree : 0 ∉ directory := by
        intro hmem
        have hnot := List.findIdx?_eq_none_iff.1 hfound 0 hmem
        simp at hnot
      cases henter : host.enter shell.state.world shell.state.attributes.place directory with
      | ok place =>
        have hmoved : (Supervisor.services host patience home).changeDirectory directory
            shell.state = (.ok (), shell.state.withPlace place) := by
          simp [Supervisor.services, Supervisor.changeDirectory, henter]
        simp only [changeDirectory, hhome, htarget, nulTerminated, hfound, hmoved]
        exact .moved htarget hfree henter
      | error errno =>
        have hstays : (Supervisor.services host patience home).changeDirectory directory
            shell.state = (.error errno, shell.state) := by
          simp [Supervisor.services, Supervisor.changeDirectory, henter]
        obtain ⟨after, hshows, htold⟩ := shell.tell_services host patience home
          ("cd: " ++ (ShellError.io (some directory) (.os errno)).message)
        simp only [changeDirectory, hhome, htarget, nulTerminated, hfound, hstays, htold]
        exact .refused htarget hfree henter hshows

/-- Whatever else is on a line, its first word is the built-in that is answered. -/
theorem answered_execute {line name : String} (patience : Nat) (hignored : isIgnored line = false)
    (hwords : Text.words line = name :: rest) (hname : name ∈ ["cd", "status", "exit"]) :
    Answered host home rest shell name
      (shell.execute (Supervisor.services host patience home) line) := by
  have hplain : Marker.isPlain name = true := by
    have hall : ∀ word ∈ ["cd", "status", "exit"], Marker.isPlain word = true := by decide
    exact hall name hname
  have hprogram := Command.program_read hwords hplain
  simp only [List.mem_cons, List.not_mem_nil, or_false] at hname
  rcases hname with rfl | rfl | rfl
  · have hbuiltin : Builtin.ofCommand? (Command.read line) =
        some (.changeDirectory (leadingFile rest)) := by
      rw [Builtin.ofCommand?, hprogram, Command.firstArgument_read hwords hplain]
      rfl
    rw [execute_builtin hignored hbuiltin]
    exact answered_changeDirectory patience
  · have hbuiltin : Builtin.ofCommand? (Command.read line) = some .status := by
      rw [Builtin.ofCommand?, hprogram]
      rfl
    rw [execute_builtin hignored hbuiltin]
    exact .status (shell.state.shows_put host _ _)
  · have hbuiltin : Builtin.ofCommand? (Command.read line) = some .exit := by
      rw [Builtin.ofCommand?, hprogram]
      rfl
    rw [execute_builtin hignored hbuiltin]
    exact .exit

/-! ## The report is one line -/

theorem report_ended (termination : Termination) :
    (Answer.ended termination).report = termination.text := by
  cases termination <;> rfl

/-- What a command of the process is answered is reported in one line. -/
theorem oneLine_answer (patience : Nat) (command : Command)
    (state : Supervisor World File Place) :
    OneLine ((Supervisor.services host patience home).answer command state).1.report := by
  have hfails := command.failsWith_ofCommand host
  unfold Services.answer
  split
  · -- in the background
    split
    · have hstarted : OneLine "exit value 0" := by decide
      exact hstarted
    · next error after hlaunch =>
      exact (Supervisor.launchBackground_fails hfails (congrArg Prod.fst hlaunch)).oneLine
  · -- in the foreground
    split
    · next outcome after hrun =>
      rw [report_ended]
      exact outcome.status.oneLine_text
    · next error after hrun =>
      exact (Supervisor.runForeground_fails hfails (congrArg Prod.fst hrun)).oneLine

/-- Whatever lines have been carried out, the report is one line. -/
theorem oneLine_report (patience : Nat) (lines : List String)
    (state : Supervisor World File Place) :
    OneLine (carryOut (Supervisor.services host patience home) lines { state }).last.report := by
  have hfaithful := Supervisor.faithful_services host patience home
  obtain ⟨text, htext⟩ :=
    exists_reports (Supervisor.services host patience home) { state } lines
  rw [(reports_iff hfaithful state lines text).1 htext]
  cases htext with
  | initially own => decide
  | last place external own => exact oneLine_answer patience _ _

/-- **Built-ins never run as processes and never redirect.** Take any shell, any system below it and
any line.

* A line ends the shell exactly if it is no comment and its first word is `exit`.
* If a line is not ignored and its first word is `cd`, `status` or `exit`, then it comes to what
  that built-in does, whatever else is on the line: `status` shows its report on standard output,
  and a `cd` that fails shows one message on standard error. The last status stays, and so does
  everything about the process but its directory and what these two streams took.
* Whatever has been carried out before, what `status` shows is one line. -/
theorem builtins_are_answered_in_place (host : Host World File Place) (patience : Nat)
    (home : Option Bytes) :
    let services := Supervisor.services host patience home
    (∀ line (shell : Shell (Supervisor World File Place)),
      (shell.execute services line).1 = .exit ↔
        line.toList.head? ≠ some '#' ∧ (Text.words line).head? = some "exit") ∧
    (∀ line name rest (shell : Shell (Supervisor World File Place)), isIgnored line = false →
      Text.words line = name :: rest → name ∈ ["cd", "status", "exit"] →
      Answered host home rest shell name (shell.execute services line) ∧
        (shell.execute services line).2.last = shell.last ∧
        shell.state.Keeps host (shell.execute services line).2.state) ∧
    ∀ lines state, OneLine (carryOut services lines { state }).last.report := by
  intro services
  refine ⟨fun line shell => execute_eq_exit_iff shell, ?_, oneLine_report patience⟩
  intro line name rest shell hignored hwords hname
  have hanswered : Answered host home rest shell name (shell.execute services line) :=
    answered_execute patience hignored hwords hname
  exact ⟨hanswered, hanswered.keeps⟩

/-- Neither the marker of a redirection nor the one for the background plays a part, and what stands
behind them is no target. -/
theorem cd_with_markers_is_answered_in_place :
    let shell : Shell (Supervisor Nat (Stream × Bytes) Unit) := { state := Supervisor.openShell }
    let after := shell.execute (Supervisor.services Host.granting 0 none) "cd > out & away"
    after.1 = .proceed ∧ after.2.last = shell.last ∧
      shell.state.Shows Host.granting Descriptors.standardError
        "smallsh: cd: IO error: HOME not set\n" after.2.state := by
  intro shell after
  have hwords : Text.words "cd > out & away" = ["cd", ">", "out", "&", "away"] := by decide +kernel
  have hignored : isIgnored "cd > out & away" = false := by decide +kernel
  have htarget : ((leadingFile [">", "out", "&", "away"]).map utf8).or none = none := by decide
  obtain ⟨-, hanswers, -⟩ := builtins_are_answered_in_place Host.granting 0 none
  obtain ⟨hanswered, -, -⟩ := hanswers _ _ _ shell hignored hwords (by decide)
  change Answered _ _ _ _ _ after at hanswered
  generalize after = result at hanswered ⊢
  generalize hname : "cd" = name at hanswered
  cases hanswered with
  | exit | status => exact absurd hname (by decide)
  | moved target | unnameable target | refused target =>
    rw [htarget] at target
    cases target
  | homeless _ shows => exact ⟨rfl, rfl, shows⟩

end Shell

end JobShell
