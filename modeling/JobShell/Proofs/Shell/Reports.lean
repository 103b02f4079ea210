import JobShell.Proofs.Shell.Session
import Mathlib.Data.List.Induction

/-!
# JobShell.Proofs.Shell.Reports — `status` is about the last external command

A line is dealt with by the shell itself or holds a command that is handed over
(`Command.external?`), and what comes back is an `Answer`: the command was started in the
background, it has ended in the foreground, or it could not be run.

* `execute_external` and `last_execute_own` are the two kinds of steps: a command that is handed
  over leaves the last status of its answer, and every other line leaves the last status alone.
* `last_carryOut` is the run: after any lines the last status is that of the last answer.
* `status_reports_last_external` reads the report off the lines, and follows it to everything that
  shows it.

Nothing is assumed about the answers but that a command in the foreground has the outcome of how it
ended, which holds for the services of a process (`Supervisor.faithful_services`).
-/

namespace JobShell

/-! ## Lines and answers -/

/-- The command that a line hands over: the line is not ignored, there is something to run, and it
names no built-in. -/
def Command.external? (line : String) : Option Command :=
  if isIgnored line || (read line).isEmpty || (Builtin.ofCommand? (read line)).isSome then none
  else some (read line)

/-- Whether a line asks for the report. -/
def AsksStatus (line : String) : Prop :=
  isIgnored line = false ∧ Builtin.ofCommand? (Command.read line) = some .status

theorem Command.external?_eq_some {line : String} {command : Command}
    (h : external? line = some command) :
    isIgnored line = false ∧ read line = command ∧ command.isEmpty = false ∧
      Builtin.ofCommand? command = none := by
  unfold external? at h
  split at h
  · cases h
  · next hown =>
    obtain rfl := Option.some.inj h
    simp only [Bool.or_eq_true, not_or, Bool.not_eq_true, Option.isSome_eq_false_iff,
      Option.isNone_iff_eq_none] at hown
    exact ⟨hown.1.1, rfl, hown.1.2, hown.2⟩

theorem Command.external?_eq_none {line : String} (h : external? line = none) :
    isIgnored line = true ∨ (read line).isEmpty = true ∨
      ∃ builtin, Builtin.ofCommand? (read line) = some builtin := by
  unfold external? at h
  split at h
  · next hown =>
    simpa only [Bool.or_eq_true, Option.isSome_iff_exists, or_assoc] using hown
  · cases h

/-- What became of a command that was handed over. -/
inductive Answer where
  /-- It was started in the background. -/
  | started (pid : Pid)
  /-- It has ended in the foreground. -/
  | ended (termination : Termination)
  /-- It could not be run. -/
  | failed (error : ShellError)
deriving DecidableEq, Repr

theorem LastStatus.report_initial : initial.report = "exit value 0" := by
  decide +kernel

namespace Answer

/-- What is reported about the command. -/
def report : Answer → String
  | started _ => "exit value 0"
  | ended (.exited code) => "exit value " ++ Text.Decimal.text code.toInt
  | ended (.killed signal) => "terminated by signal " ++ signal.numeral
  | failed error => error.message

/-- The last status that the command leaves. -/
def lastStatus : Answer → LastStatus
  | started _ => .initial
  | ended termination => .ofOutcome (.ofTermination termination)
  | failed error => .ofFailure error.message

theorem report_lastStatus (answer : Answer) : answer.lastStatus.report = answer.report := by
  rcases answer with pid | ⟨code | signal⟩ | error
  · exact LastStatus.report_initial
  all_goals rfl

end Answer

namespace Services

variable {State : Type}

/-- Hands a command over, to the background if it says so. -/
def answer (services : Services State) (command : Command) (state : State) : Answer × State :=
  if command.background then
    match services.launchBackground command state with
    | (.ok pid, state) => (.started pid, state)
    | (.error error, state) => (.failed error, state)
  else
    match services.runForeground command state with
    | (.ok outcome, state) => (.ended outcome.status, state)
    | (.error error, state) => (.failed error, state)

/-- What is written as soon as a command is answered: the number of a job, how a signal ended a
command, or why a command could not be run. -/
def announce (services : Services State) (answer : Answer) (state : State) : State :=
  match answer with
  | .started pid => services.say ("background pid " ++ pid.text ++ "\n") state
  | .ended (.exited _) => state
  | .ended (.killed _) => services.say (answer.report ++ "\n") state
  | .failed _ => services.complain ("smallsh: " ++ answer.report ++ "\n") state

/-- A command that has ended in the foreground has the outcome of how it ended. -/
def Faithful (services : Services State) : Prop :=
  ∀ command state outcome after, services.runForeground command state = (.ok outcome, after) →
    ∃ termination, outcome = .ofTermination termination

end Services

/-- The services of a process are faithful, whatever its host does. -/
theorem Supervisor.faithful_services {World File Place : Type} (host : Host World File Place)
    (patience : Nat) (home : Option Bytes) : (services host patience home).Faithful := by
  intro command shell outcome after h
  obtain ⟨hresult, -⟩ := Prod.mk.inj h
  cases hrun : (run host command patience .entering shell).1 with
  | error error => simp [hrun, Except.map] at hresult
  | ok termination =>
    rw [hrun] at hresult
    exact ⟨termination, (Except.ok.inj hresult).symm⟩

namespace Shell

variable {State : Type} {services : Services State} {line : String} {command : Command}

/-! ## One line -/

/-- A line whose command is handed over leaves the last status of the answer, which is announced at
once. -/
theorem execute_external (hfaithful : services.Faithful)
    (hline : Command.external? line = some command) (shell : Shell State) :
    shell.execute services line =
      (.proceed,
        { last := (services.answer command shell.state).1.lastStatus
          state := services.announce (services.answer command shell.state).1
            (services.answer command shell.state).2 }) := by
  obtain ⟨hignored, rfl, hempty, hbuiltin⟩ := Command.external?_eq_some hline
  unfold execute
  simp only [hignored, hempty, hbuiltin, Bool.or_self, Bool.false_eq_true, if_false]
  cases hmode : (Command.read line).background with
  | true =>
    simp only [if_true, background, Services.answer, hmode]
    rcases services.launchBackground (Command.read line) shell.state with ⟨error | pid, state⟩
    · simp only [fail, tell, Log.userLines_eq]
      rfl
    · rfl
  | false =>
    simp only [Bool.false_eq_true, if_false, foreground, Services.answer, hmode]
    rcases hrun : services.runForeground (Command.read line) shell.state with
      ⟨error | outcome, state⟩
    · simp only [fail, tell, Log.userLines_eq]
      rfl
    · obtain ⟨code | signal, rfl⟩ := hfaithful _ _ _ _ hrun
      all_goals rfl

/-- Changing the directory leaves the last status alone, whether or not it succeeds. -/
theorem last_changeDirectory (target : Option String) (shell : Shell State) :
    (shell.changeDirectory services target).last = shell.last := by
  unfold changeDirectory
  dsimp only
  split
  · rfl
  · split
    · rfl
    · split <;> rfl

/-- A line that the shell deals with itself leaves the last status alone. -/
theorem last_execute_own (hline : Command.external? line = none) (shell : Shell State) :
    (shell.execute services line).2.last = shell.last := by
  unfold execute
  dsimp only
  split
  · rfl
  · next hcommand =>
    simp only [Bool.or_eq_true, not_or] at hcommand
    rcases Command.external?_eq_none hline with hignored | hempty | ⟨builtin, hbuiltin⟩
    · exact absurd hignored hcommand.1
    · exact absurd hempty hcommand.2
    · rw [hbuiltin]
      cases builtin with
      | exit => rfl
      | changeDirectory target => exact last_changeDirectory target shell
      | status => rfl

/-- A line that names a built-in is answered by the shell. -/
theorem execute_builtin {builtin : Builtin} (hignored : isIgnored line = false)
    (hbuiltin : Builtin.ofCommand? (Command.read line) = some builtin) (shell : Shell State) :
    shell.execute services line = shell.answer services builtin := by
  have hempty : (Command.read line).isEmpty = false := by
    cases harguments : (Command.read line).arguments with
    | nil => simp [Builtin.ofCommand?, Command.program, harguments] at hbuiltin
    | cons => simp [Command.isEmpty, harguments]
  unfold execute
  simp only [hignored, hempty, hbuiltin, Bool.or_self, Bool.false_eq_true, if_false]

/-- A line that asks for the report shows the last status, and that is all it does. -/
theorem execute_asksStatus (hline : AsksStatus line) (shell : Shell State) :
    shell.execute services line = (.proceed, shell.sayLine services shell.last.report) :=
  execute_builtin hline.1 hline.2 shell

/-! ## Many lines -/

/-- The shell after it has carried out some lines, whether or not one of them asks to exit. -/
def carryOut (services : Services State) : List String → Shell State → Shell State
  | [], shell => shell
  | line :: lines, shell => carryOut services lines (shell.execute services line).2

/-- What the commands of some lines are answered, in order. -/
def answers (services : Services State) : List String → Shell State → List Answer
  | [], _ => []
  | line :: lines, shell =>
    let later := answers services lines (shell.execute services line).2
    match Command.external? line with
    | some command => (services.answer command shell.state).1 :: later
    | none => later

theorem answers_append (before after : List String) (shell : Shell State) :
    answers services (before ++ after) shell =
      answers services before shell ++ answers services after (carryOut services before shell) := by
  induction before generalizing shell with
  | nil => rfl
  | cons line before ih =>
    simp only [List.cons_append, answers, carryOut, ih]
    cases Command.external? line <;> rfl

theorem length_answers (lines : List String) (shell : Shell State) :
    (answers services lines shell).length = (lines.filterMap Command.external?).length := by
  induction lines generalizing shell with
  | nil => rfl
  | cons line lines ih =>
    rw [answers, List.filterMap_cons]
    cases Command.external? line with
    | none => exact ih _
    | some command => exact congrArg Nat.succ (ih _)

theorem answers_of_own {lines : List String}
    (h : ∀ line ∈ lines, Command.external? line = none) (shell : Shell State) :
    answers services lines shell = [] := by
  rw [← List.length_eq_zero_iff, length_answers, List.length_eq_zero_iff,
    List.filterMap_eq_nil_iff]
  exact h

/-- After any lines the last status is that of the last answer. -/
theorem last_carryOut (hfaithful : services.Faithful) (lines : List String) (shell : Shell State) :
    (carryOut services lines shell).last =
      ((answers services lines shell).getLast?.map Answer.lastStatus).getD shell.last := by
  induction lines generalizing shell with
  | nil => rfl
  | cons line lines ih =>
    rw [carryOut, ih, answers]
    cases hline : Command.external? line with
    | none => rw [last_execute_own hline]
    | some command =>
      rw [execute_external hfaithful hline, List.getLast?_cons]
      cases (answers services lines _).getLast? <;> rfl

/-- The answers of the first lines are the first answers. -/
theorem answers_prefix_congr {front lines : List String} {shell other : Shell State}
    (hfront : front <+: lines)
    (h : answers services lines shell = answers services lines other) :
    answers services front shell = answers services front other := by
  obtain ⟨rest, rfl⟩ := hfront
  rw [answers_append, answers_append] at h
  exact (List.append_inj h (by rw [length_answers, length_answers])).1

/-! ## The report -/

/-- The report about some lines: that of the last of them whose command was handed over, and success
if there is none. -/
inductive Reports (services : Services State) (start : Shell State) (lines : List String) :
    String → Prop where
  | initially (own : ∀ line ∈ lines, Command.external? line = none) :
      Reports services start lines "exit value 0"
  | last {before after : List String} {line : String} {command : Command}
      (place : lines = before ++ line :: after)
      (external : Command.external? line = some command)
      (own : ∀ other ∈ after, Command.external? other = none) :
      Reports services start lines
        (services.answer command (carryOut services before start).state).1.report

/-- The last command that was handed over leaves its report. -/
theorem report_last (hfaithful : services.Faithful) (before : List String) {after : List String}
    (hline : Command.external? line = some command)
    (hown : ∀ other ∈ after, Command.external? other = none) (start : Shell State) :
    (carryOut services (before ++ line :: after) start).last.report =
      (services.answer command (carryOut services before start).state).1.report := by
  rw [last_carryOut hfaithful, answers_append, answers, hline, answers_of_own hown,
    List.getLast?_concat]
  exact Answer.report_lastStatus _

/-- Among some lines there is a last one whose command was handed over, or none at all. -/
theorem exists_reports (services : Services State) (start : Shell State) (lines : List String) :
    ∃ text, Reports services start lines text := by
  induction lines using List.reverseRecOn with
  | nil => exact ⟨_, .initially (by simp)⟩
  | append_singleton lines line ih =>
    cases hline : Command.external? line with
    | some command => exact ⟨_, .last rfl hline (by simp)⟩
    | none =>
      obtain ⟨text, own | @⟨before, after, other, command, place, external, own⟩⟩ := ih
      · exact ⟨_, .initially (by simpa [or_imp, forall_and] using ⟨own, hline⟩)⟩
      · have hplace : lines ++ [line] = before ++ other :: (after ++ [line]) := by simp [place]
        exact ⟨_, .last hplace external (by simpa [or_imp, forall_and] using ⟨own, hline⟩)⟩

/-- The report about some lines is what the shell has in store for `status`. -/
theorem reports_iff (hfaithful : services.Faithful) (state : State) (lines : List String)
    (text : String) : Reports services { state } lines text ↔
      (carryOut services lines { state }).last.report = text := by
  have hsound {text : String} (h : Reports services { state } lines text) :
      (carryOut services lines { state }).last.report = text := by
    cases h with
    | initially own =>
      rw [last_carryOut hfaithful, answers_of_own own]
      exact LastStatus.report_initial
    | last place external own =>
      rw [place]
      exact report_last hfaithful _ external own _
  refine ⟨hsound, ?_⟩
  rintro rfl
  obtain ⟨text, htext⟩ := exists_reports services { state } lines
  rwa [hsound htext]

/-- Lines that the shell deals with itself change no later report, if the commands behind them are
answered as they would have been without. -/
theorem report_insert (hfaithful : services.Faithful) (before : List String)
    {inserted after front : List String} (hown : ∀ line ∈ inserted, Command.external? line = none)
    (hfront : front <+: after) {start : Shell State}
    (hanswers : answers services after (carryOut services (before ++ inserted) start) =
      answers services after (carryOut services before start)) :
    (carryOut services (before ++ inserted ++ front) start).last.report =
      (carryOut services (before ++ front) start).last.report := by
  have hsame := answers_prefix_congr hfront hanswers
  rw [last_carryOut hfaithful, last_carryOut hfaithful, answers_append, answers_append, hsame,
    answers_append, answers_of_own hown, List.append_nil]

/-- **`status` reports the most recent external command and nothing else.** Take any services, which
stand for any answers to the commands of a session, and any lines.

* The report is that of the last line whose command was handed over, and success if there is none.
* That command is announced at once, with the text that every `status` shows until another command
  is handed over: how a signal ended it, on standard output, or why it could not be run, behind the
  shell's name on standard error.
* A line that the shell deals with itself can be put in or left out anywhere without changing a
  later report, as long as the commands are answered alike. -/
theorem status_reports_last_external (hfaithful : services.Faithful) (state : State) :
    (∀ lines text, Reports services { state } lines text ↔
      (carryOut services lines { state }).last.report = text) ∧
    (∀ before line command after query, Command.external? line = some command →
      (∀ other ∈ after, Command.external? other = none) → AsksStatus query →
      let asked := carryOut services before { state }
      let answered := services.answer command asked.state
      let later := carryOut services (before ++ line :: after) { state }
      asked.execute services line =
          (.proceed, ⟨answered.1.lastStatus, services.announce answered.1 answered.2⟩) ∧
        later.execute services query = (.proceed,
          { later with state := services.say (answered.1.report ++ "\n") later.state })) ∧
    ∀ before inserted after, (∀ line ∈ inserted, Command.external? line = none) →
      answers services after (carryOut services (before ++ inserted) { state }) =
        answers services after (carryOut services before { state }) →
      ∀ front, front <+: after →
        (carryOut services (before ++ inserted ++ front) { state }).last.report =
          (carryOut services (before ++ front) { state }).last.report := by
  refine ⟨reports_iff hfaithful state, ?_, ?_⟩
  · intro before line command after query hline hown hquery asked answered later
    refine ⟨execute_external hfaithful hline asked, ?_⟩
    have hreport : later.last.report = answered.1.report :=
      report_last hfaithful before hline hown { state }
    rw [execute_asksStatus hquery, hreport]
    rfl
  · intro before inserted after hown hanswers front hfront
    exact report_insert hfaithful before hown hfront hanswers

/-! ### Answers from a list -/

/-- Answers that are still to be given, and what was written so far. -/
structure Script where
  pending : List Answer
  written : List String := []
deriving DecidableEq, Repr

/-- Services that answer the commands from a list, whichever they are, and record what is
written. -/
def scripted : Services Script where
  launchBackground _ script :=
    match script.pending with
    | .started pid :: pending => (.ok pid, { script with pending })
    | .failed error :: pending => (.error error, { script with pending })
    | _ => (.error .emptyCommand, script)
  runForeground _ script :=
    match script.pending with
    | .ended termination :: pending => (.ok (.ofTermination termination), { script with pending })
    | .failed error :: pending => (.error error, { script with pending })
    | _ => (.error .emptyCommand, script)
  home := none
  changeDirectory _ script := (.error .noEntry, script)
  say text script := { script with written := script.written ++ [text] }
  complain text script := { script with written := script.written ++ [text] }

theorem faithful_scripted : scripted.Faithful := by
  rintro command ⟨_ | ⟨_ | termination | error, pending⟩, written⟩ outcome after h
  all_goals obtain ⟨hresult, -⟩ := Prod.mk.inj h
  · cases hresult
  · cases hresult
  · exact ⟨termination, (Except.ok.inj hresult).symm⟩
  · cases hresult

/-- A job and a command that a signal ends. -/
def sampleScript : Script where
  pending := [.started ⟨5⟩, .ended (.killed .terminate)]

/-- The report is still that of the command after a comment and a change of the directory that
fails, and it would be the same without the lines between the job and the command. -/
theorem status_reports_killed_command :
    scripted.Faithful ∧
      (carryOut scripted ["true &", "sleep 9", "# wait", "cd"]
          { state := sampleScript }).last.report = "terminated by signal 15" ∧
      (carryOut scripted (["true &"] ++ ["status", "cd"] ++ ["sleep 9"])
          { state := sampleScript }).last.report =
        (carryOut scripted (["true &"] ++ ["sleep 9"]) { state := sampleScript }).last.report := by
  obtain ⟨hreports, -, hinserted⟩ := status_reports_last_external faithful_scripted sampleScript
  have hline : Command.external? "sleep 9" = some { arguments := ["sleep", "9"] } := by
    decide +kernel
  refine ⟨faithful_scripted, ?_, ?_⟩
  · have hplace :
        ["true &", "sleep 9", "# wait", "cd"] = ["true &"] ++ "sleep 9" :: ["# wait", "cd"] := rfl
    have hlast : Reports scripted { state := sampleScript }
        ["true &", "sleep 9", "# wait", "cd"] _ :=
      .last hplace hline (by decide +kernel)
    have htext : (scripted.answer { arguments := ["sleep", "9"] }
        (carryOut scripted ["true &"] { state := sampleScript }).state).1.report =
          "terminated by signal 15" := by
      decide +kernel
    rw [htext] at hlast
    exact (hreports _ _).1 hlast
  · refine hinserted ["true &"] ["status", "cd"] ["sleep 9"] (by decide +kernel) ?_ _
      (List.prefix_refl _)
    decide +kernel

end Shell

end JobShell
