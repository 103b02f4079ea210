import JobShell.Proofs.Shell.Builtins
import Mathlib.Data.List.DropRight

/-!
# JobShell.Proofs.Shell.Dispatch — lines that come to nothing, and lines that are handed over

A line is looked at twice, as a text to see whether it is ignored, and as words to see what it asks
for. The two looks agree: a line is blank exactly if it has no words, and the first word of a
comment names nothing that the shell answers itself.

* `Inert`: a line that is ignored, or whose first word is a marker, comes to nothing at all.
* `HandedOver`: any other line that names no built-in holds a command with something to run, which
  is handed over once. `Services.recorded` keeps a record of every use of a service, so that one use
  can be told from none and from two.
-/

namespace JobShell

/-! ## Blank texts and the starts of others -/

namespace Text

variable {text : String}

/-- A text without the white space at its ends. -/
def trim (text : String) : String :=
  String.ofList ((text.toList.dropWhile isBlank).rdropWhile isBlank)

/-- Nothing is left of a text exactly if all of it is blank. -/
theorem trim_eq_empty_iff : trim text = "" ↔ isBlankText text = true := by
  have hsplit : text.toList.takeWhile isBlank ++ text.toList.dropWhile isBlank = text.toList :=
    List.takeWhile_append_dropWhile
  rw [← String.toList_eq_nil_iff, trim, String.toList_ofList, List.rdropWhile_eq_nil_iff,
    isBlankText, List.all_eq_true]
  constructor
  · intro hrest c hc
    rw [← hsplit, List.mem_append] at hc
    rcases hc with hfront | hback
    · exact List.mem_takeWhile_imp hfront
    · exact hrest c hback
  · intro hall c hc
    exact hall c ((List.dropWhile_sublist _).subset hc)

theorem runs_nil_iff {text : List Char} : Runs text [] ↔ ∀ c ∈ text, isBlank c = true := by
  constructor
  · rintro ⟨hgap⟩
    exact hgap
  · exact .blank

/-- A text has no words exactly if all of it is blank. -/
theorem words_eq_nil_iff : words text = [] ↔ isBlankText text = true := by
  rw [isBlankText, List.all_eq_true, ← runs_nil_iff, runs_iff, eq_comm (a := []),
    List.map_eq_nil_iff]

/-- What a text starts with, if it is not blank, starts its first run. -/
theorem Runs.head? {text : List Char} {runs : List (List Char)} (h : Runs text runs) {c : Char}
    (hc : isBlank c = false) (hstart : text.head? = some c) :
    ∃ word rest, runs = word :: rest ∧ word.head? = some c := by
  cases h with
  | blank hgap =>
    rw [hgap c (List.mem_of_head? hstart)] at hc
    cases hc
  | @run gap word rest runs hgap hne =>
    refine ⟨word, runs, rfl, ?_⟩
    cases gap with
    | nil =>
      obtain ⟨first, others, rfl⟩ := List.exists_cons_of_ne_nil hne
      exact hstart
    | cons blank gap =>
      obtain rfl : blank = c := Option.some.inj hstart
      rw [hgap blank List.mem_cons_self] at hc
      cases hc

theorem exists_words_of_head? {c : Char} (hc : isBlank c = false)
    (hstart : text.toList.head? = some c) :
    ∃ word rest, words text = word :: rest ∧ word.toList.head? = some c := by
  have hruns : Runs text.toList ((words text).map String.toList) := runs_iff.2 rfl
  obtain ⟨first, later, hfirst, hhead⟩ := hruns.head? hc hstart
  obtain ⟨word, rest, hwords, rfl, -⟩ := List.map_eq_cons_iff.1 hfirst
  exact ⟨word, rest, hwords, hhead⟩

end Text

open Text

/-! ## What the first word decides -/

section

variable {line : String}

/-- A line is ignored exactly if it is blank or starts as a comment. -/
theorem isIgnored_iff :
    isIgnored line = true ↔ trim line = "" ∨ line.toList.head? = some '#' := by
  rw [trim_eq_empty_iff, isIgnored, Bool.or_eq_true, beq_iff_eq]

theorem Builtin.ofCommand?_eq_none_iff {command : Command} :
    ofCommand? command = none ↔ command.program ∉ ["cd", "status", "exit"] := by
  unfold ofCommand?
  split_ifs <;> simp_all

/-- A line names no built-in exactly if its first word is none of their names. -/
theorem Builtin.ofCommand?_read_eq_none_iff :
    ofCommand? (Command.read line) = none ↔
      ∀ name ∈ (Text.words line).head?, name ∉ ["cd", "status", "exit"] := by
  rw [ofCommand?_eq_none_iff]
  have hnames (name : String) (hname : name ∈ ["cd", "status", "exit"]) :
      (Command.read line).program = name ↔ (Text.words line).head? = some name := by
    have hall : ∀ name ∈ ["cd", "status", "exit"], Marker.isPlain name = true ∧ name ≠ "" := by
      decide
    exact Command.program_read_eq_iff (hall name hname).1 (hall name hname).2
  constructor
  · intro hprogram name hfirst hname
    rw [(hnames name hname).2 hfirst] at hprogram
    exact hprogram hname
  · intro hfirst hprogram
    exact hfirst _ ((hnames _ hprogram).1 rfl) hprogram

/-- A command has no arguments exactly if its line has no word in front of all markers. -/
theorem Command.isEmpty_read_iff :
    (read line).isEmpty = true ↔
      ∀ name ∈ (Text.words line).head?, Marker.isPlain name = false := by
  rw [isEmpty, List.isEmpty_iff, read, ofWords_eq, leadingArguments]
  cases hwords : Text.words line with
  | nil => simp
  | cons name rest => cases hname : Marker.isPlain name <;> simp [hname]

/-- The two looks at a line agree: no line that is ignored is a built-in. -/
theorem Builtin.ofCommand?_of_isIgnored (h : isIgnored line = true) :
    ofCommand? (Command.read line) = none := by
  rw [ofCommand?_read_eq_none_iff]
  intro name hfirst hname
  rcases isIgnored_iff.1 h with hblank | hcomment
  · rw [words_eq_nil_iff.2 (trim_eq_empty_iff.1 hblank)] at hfirst
    cases hfirst
  · obtain ⟨word, rest, hwords, hhead⟩ := exists_words_of_head? (by decide) hcomment
    rw [hwords] at hfirst
    obtain rfl : word = name := Option.some.inj hfirst
    have hletters : ∀ name ∈ ["cd", "status", "exit"], name.toList.head? ≠ some '#' := by decide
    exact hletters word hname hhead

/-- A line that is not ignored hands over its command if its first word is neither a marker nor the
name of a built-in. -/
theorem Command.external?_of_first (hignored : isIgnored line = false)
    (hfirst : ∀ name ∈ (Text.words line).head?,
      (∀ marker : Marker, name ≠ marker.text) ∧ name ∉ ["cd", "status", "exit"]) :
    external? line = some (read line) := by
  obtain ⟨name, rest, hwords⟩ : ∃ name rest, Text.words line = name :: rest := by
    refine List.exists_cons_of_ne_nil ?_
    intro hnil
    have hblank : isIgnored line = true :=
      isIgnored_iff.2 (.inl (trim_eq_empty_iff.2 (words_eq_nil_iff.1 hnil)))
    rw [hignored] at hblank
    cases hblank
  have hhead : (Text.words line).head? = some name := by rw [hwords]; rfl
  have hempty : (read line).isEmpty = false := by
    rw [Bool.eq_false_iff, Ne, isEmpty_read_iff]
    intro hmarker
    have hplain := Marker.isPlain_iff.2 (hfirst name hhead).1
    rw [hmarker name hhead] at hplain
    cases hplain
  have hbuiltin : Builtin.ofCommand? (read line) = none :=
    Builtin.ofCommand?_read_eq_none_iff.2 fun other hother => (hfirst other hother).2
  rw [external?, hignored, hempty, hbuiltin]
  rfl

end

/-! ## A record of what is used -/

/-- One use of a service. -/
inductive Request where
  | launchBackground (command : Command)
  | runForeground (command : Command)
  | changeDirectory (path : Bytes)
  | say (text : String)
  | complain (text : String)
deriving DecidableEq, Repr

/-- Whether a service is only used to write something. -/
def Request.Writes : Request → Prop
  | .say _ | .complain _ => True
  | _ => False

variable {State : Type}

namespace Services

/-- The services with a record of their uses, the last one at its end. -/
def recorded (services : Services State) : Services (State × List Request) where
  launchBackground command state :=
    let (result, after) := services.launchBackground command state.1
    (result, after, state.2 ++ [.launchBackground command])
  runForeground command state :=
    let (result, after) := services.runForeground command state.1
    (result, after, state.2 ++ [.runForeground command])
  home := services.home
  changeDirectory path state :=
    let (result, after) := services.changeDirectory path state.1
    (result, after, state.2 ++ [.changeDirectory path])
  say text state := (services.say text state.1, state.2 ++ [.say text])
  complain text state := (services.complain text state.1, state.2 ++ [.complain text])

end Services

namespace Shell

variable (services : Services State)

/-- The shell with a record beside its state. -/
def keeping (record : List Request) (shell : Shell State) : Shell (State × List Request) where
  last := shell.last
  state := (shell.state, record)

/-- Starting a command in the background is one use of that service, and something is written. -/
theorem background_keeping (command : Command) (record : List Request) (shell : Shell State) :
    ∃ note : Request, note.Writes ∧ (shell.keeping record).background services.recorded command =
      (shell.background services command).keeping
        (record ++ [.launchBackground command, note]) := by
  rcases hlaunch : services.launchBackground command shell.state with ⟨error | pid, after⟩
  · refine ⟨.complain (Log.userLines error.message), trivial, ?_⟩
    simp [background, Services.recorded, keeping, hlaunch, fail, tell]
  · refine ⟨.say ("background pid " ++ pid.text ++ "\n"), trivial, ?_⟩
    simp [background, Services.recorded, keeping, hlaunch, sayLine]

/-- Running a command in the foreground is one use of that service, and something may be written. -/
theorem foreground_keeping (command : Command) (record : List Request) (shell : Shell State) :
    ∃ notes : List Request, (∀ note ∈ notes, note.Writes) ∧
      (shell.keeping record).foreground services.recorded command =
        (shell.foreground services command).keeping
          (record ++ .runForeground command :: notes) := by
  rcases hrun : services.runForeground command shell.state with ⟨error | outcome, after⟩
  · refine ⟨[.complain (Log.userLines error.message)], by simp [Request.Writes], ?_⟩
    simp [foreground, Services.recorded, keeping, hrun, fail, tell]
  · cases hmessage : outcome.message with
    | none =>
      refine ⟨[], by simp, ?_⟩
      simp [foreground, Services.recorded, keeping, hrun, hmessage]
    | some message =>
      refine ⟨[.say (message ++ "\n")], by simp [Request.Writes], ?_⟩
      simp [foreground, Services.recorded, keeping, hrun, hmessage, sayLine]

/-- A command that is handed over goes to the background if it says so, and to the foreground
otherwise. -/
theorem execute_of_external {line : String} {command : Command}
    (hline : Command.external? line = some command) (shell : Shell State) :
    shell.execute services line =
      (.proceed, if command.background then shell.background services command
        else shell.foreground services command) := by
  obtain ⟨hignored, rfl, hempty, hbuiltin⟩ := Command.external?_eq_some hline
  unfold execute
  simp only [hignored, hempty, hbuiltin, Bool.or_self, Bool.false_eq_true, if_false]
  split <;> rfl

end Shell

/-! ## What a line comes to -/

/-- A line comes to nothing: whatever the services are, none of them is used, and the shell stays as
it is and goes on. -/
def Inert (line : String) : Prop :=
  ∀ (State : Type) (services : Services State) (shell : Shell State),
    shell.execute services line = (.proceed, shell)

/-- The use of a service that hands over the command of a line: it goes to the background exactly if
the background marker is among the words of the line. -/
def Request.handingOver (line : String) : Request :=
  if Marker.background.text ∈ Text.words line then .launchBackground (Command.read line)
  else .runForeground (Command.read line)

/-- A line is handed over. -/
structure HandedOver (line : String) : Prop where
  /-- There is something to run. -/
  runnable : (Command.read line).arguments ≠ []
  /-- Whatever the services are, the command is handed over once, and nothing is done besides but
  writing. Keeping a record of that makes no difference to the shell. -/
  once : ∀ (State : Type) (services : Services State) (shell : Shell State) (record : List Request),
    ∃ after notes, (∀ note ∈ notes, note.Writes) ∧
      shell.execute services line = (.proceed, after) ∧
      (shell.keeping record).execute services.recorded line =
        (.proceed, after.keeping (record ++ .handingOver line :: notes))
  /-- No process that it is handed over to rejects it as an empty command. -/
  accepted : ∀ (World File Place : Type) (host : Host World File Place) (patience : Nat)
    (state : Supervisor World File Place),
    (state.launchBackground host (Command.read line)).1 ≠ .error .emptyCommand ∧
      (state.runForeground host patience (Command.read line)).1 ≠ .error .emptyCommand

theorem inert_of_isEmpty {line : String}
    (h : isIgnored line = true ∨ (Command.read line).isEmpty = true) : Inert line := by
  intro State services shell
  have hnothing : (isIgnored line || (Command.read line).isEmpty) = true := by
    rwa [Bool.or_eq_true]
  rw [Shell.execute, if_pos hnothing]

theorem handedOver_of_external {line : String}
    (hline : Command.external? line = some (Command.read line)) : HandedOver line := by
  obtain ⟨-, -, hempty, -⟩ := Command.external?_eq_some hline
  have harguments : (Command.read line).arguments ≠ [] := by
    simpa [Command.isEmpty] using hempty
  have hbackground : (Command.read line).background = true ↔
      Marker.background.text ∈ Text.words line := by
    rw [Command.read, Command.ofWords_eq, List.contains_iff_mem]
  refine
    { runnable := harguments
      once := ?once
      accepted := ?accepted }
  case once =>
    intro State services shell record
    rw [Shell.execute_of_external _ hline, Shell.execute_of_external _ hline]
    cases hmode : (Command.read line).background with
    | true =>
      obtain ⟨note, hnote, hkeeping⟩ := Shell.background_keeping services
        (Command.read line) record shell
      refine ⟨_, [note], by simpa using hnote, rfl, ?_⟩
      rw [Request.handingOver, if_pos (hbackground.1 hmode)]
      exact congrArg (Prod.mk Flow.proceed) hkeeping
    | false =>
      obtain ⟨notes, hnotes, hkeeping⟩ := Shell.foreground_keeping services
        (Command.read line) record shell
      have hmarker : Marker.background.text ∉ Text.words line := by
        rw [← hbackground, hmode]
        decide
      refine ⟨_, notes, hnotes, rfl, ?_⟩
      rw [Request.handingOver, if_neg hmarker]
      exact congrArg (Prod.mk Flow.proceed) hkeeping
  case accepted =>
    intro World File Place host patience state
    have hfails := Command.failsWith_ne_emptyCommand host harguments
    exact ⟨fun h => Supervisor.launchBackground_fails hfails h rfl,
      fun h => Supervisor.runForeground_fails hfails h rfl⟩

/-- **A line comes to nothing, is answered in place or is handed over once.** The two looks at a
line agree on what is blank and on what is a built-in. A line that is ignored or starts with a
marker has no effect at all, even if a file is named behind the marker. Any other line whose first
word is not the name of a built-in is handed over with something to run, to the background or to the
foreground, and is never rejected as an empty command. -/
theorem lines_are_inert_or_handed_over (line : String) :
    (isIgnored line = true ↔ Text.trim line = "" ∨ line.toList.head? = some '#') ∧
    (Text.trim line = "" ↔ Text.words line = []) ∧
    (isIgnored line = true → Builtin.ofCommand? (Command.read line) = none) ∧
    ((isIgnored line = true ∨ ∃ marker : Marker, (Text.words line).head? = some marker.text) →
      Inert line) ∧
    (isIgnored line = false →
      (∀ name ∈ (Text.words line).head?,
        (∀ marker : Marker, name ≠ marker.text) ∧ name ∉ ["cd", "status", "exit"]) →
      HandedOver line) := by
  refine ⟨isIgnored_iff, by rw [trim_eq_empty_iff, words_eq_nil_iff],
    Builtin.ofCommand?_of_isIgnored, ?_, ?_⟩
  · rintro (hignored | ⟨marker, hmarker⟩)
    · exact inert_of_isEmpty (.inl hignored)
    · refine inert_of_isEmpty (.inr (Command.isEmpty_read_iff.2 ?_))
      intro name hname
      rw [hmarker] at hname
      obtain rfl : marker.text = name := Option.some.inj hname
      exact Marker.isPlain_text marker
  · intro hignored hfirst
    exact handedOver_of_external (Command.external?_of_first hignored hfirst)

/-- The first line only names a file, the second one is a comment, and the third one is a job. -/
theorem sleeping_job_is_handed_over_once :
    Inert "> log &" ∧ Builtin.ofCommand? (Command.read "#cd") = none ∧ Inert "#cd" ∧
      HandedOver "sleep 5 & > log" ∧
      Request.handingOver "sleep 5 & > log" = .launchBackground
        { arguments := ["sleep", "5"], output := some "log", background := true } := by
  have hcomment : isIgnored "#cd" = true := by decide +kernel
  have hfirst : (Text.words "sleep 5 & > log").head? = some "sleep" := by decide +kernel
  obtain ⟨-, -, -, hfile, -⟩ := lines_are_inert_or_handed_over "> log &"
  obtain ⟨-, -, hbuiltin, hignored, -⟩ := lines_are_inert_or_handed_over "#cd"
  obtain ⟨-, -, -, -, hjob⟩ := lines_are_inert_or_handed_over "sleep 5 & > log"
  refine ⟨hfile (.inr ⟨.output, by decide +kernel⟩), hbuiltin hcomment, hignored (.inl hcomment),
    hjob (by decide +kernel) ?_, by decide +kernel⟩
  intro name hname
  rw [hfirst] at hname
  obtain rfl : "sleep" = name := Option.some.inj hname
  exact ⟨Marker.isPlain_iff.1 (by decide), by decide⟩

end JobShell
