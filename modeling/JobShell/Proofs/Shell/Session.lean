import JobShell.Proofs.Shell.Delivery
import JobShell.Proofs.Text.Encoding
import JobShell.Proofs.Text.Words
import JobShell.Supervisor.Services

/-!
# JobShell.Proofs.Shell.Session — a session is its lines, carried out in order

Between two reads the shell does one of three things (`Deed`): it shows its prompt, carries out a
text, or complains about a line that is not text. What it does for an input is read off the lines
of the input (`Deed.ofLine`), so a session is a list of deeds done one after the other.

`run_of_delivers` is the loop with a reader that gives out lines; the rest compares lists of deeds.
-/

namespace JobShell

/-! ## A newline behind a line -/

theorem Command.read_append_newline (line : String) :
    Command.read (line ++ "\n") = Command.read line := by
  have hsplit := Text.split_append_blank (c := '\n') (by decide) line.toList []
  have hwords : Text.words (line ++ "\n") = Text.words line := by
    have hchars : (line ++ "\n").toList = line.toList ++ '\n' :: [] := by simp
    unfold Text.words
    rw [hchars, hsplit]
    exact congrArg _ (List.append_nil _)
  unfold Command.read
  rw [hwords]

theorem isIgnored_append_newline (line : String) : isIgnored (line ++ "\n") = isIgnored line := by
  have hblank : Text.isBlank '\n' = true := by decide
  cases hchars : line.toList with
  | nil =>
    obtain rfl := String.toList_eq_nil_iff.1 hchars
    decide
  | cons c rest => simp [isIgnored, Text.isBlankText, hchars, hblank]

theorem Shell.execute_append_newline {State : Type} (services : Services State) (line : String)
    (shell : Shell State) :
    shell.execute services (line ++ "\n") = shell.execute services line := by
  unfold execute
  rw [Command.read_append_newline, isIgnored_append_newline]

/-! ## Deeds -/

/-- What the shell does between two reads. -/
inductive Deed where
  /-- Shows the prompt. -/
  | prompt
  /-- Carries out a line. -/
  | execute (line : String)
  /-- Complains about a line that is not text. -/
  | complain
deriving DecidableEq, Repr

namespace Deed

variable {State : Type}

/-- The shell afterwards, and whether it goes on. -/
def perform (services : Services State) : Deed → Shell State → Flow × Shell State
  | prompt, shell => (.proceed, { shell with state := services.say Help.prompt shell.state })
  | execute line, shell => shell.execute services line
  | complain, shell =>
    (.proceed, shell.tell services ("ignoring line: " ++ Failure.notText.message))

/-- Does one thing after the other until one of them asks to exit. If the shell still goes on in the
end, all of them have been done. -/
def performAll (services : Services State) : List Deed → Shell State → Flow × Shell State
  | [], shell => (.proceed, shell)
  | deed :: deeds, shell =>
    match deed.perform services shell with
    | (.exit, shell) => (.exit, shell)
    | (.proceed, shell) => performAll services deeds shell

/-- What a line calls for. -/
def ofBytes (line : Bytes) : Deed :=
  match Text.ofUtf8? line with
  | some text => execute text
  | none => complain

/-- What is done for a line: it is asked for, and then it is dealt with. -/
def ofLine (line : Bytes) : List Deed :=
  [prompt, ofBytes line]

/-- A line calls for the same with a newline behind it. -/
theorem perform_ofBytes_append_newline (services : Services State) (line : Bytes) :
    (ofBytes (line ++ [Text.newline])).perform services = (ofBytes line).perform services := by
  funext shell
  unfold ofBytes
  rw [Text.ofUtf8?_append_newline]
  cases Text.ofUtf8? line with
  | none => rfl
  | some text => exact shell.execute_append_newline services text

end Deed

/-! ## The loop -/

namespace Shell

variable {Reader State : Type}

/-- The deeds of a session: those of its lines, and the prompt that the end of the input answers. -/
def deeds (lines : List Bytes) : List Deed :=
  lines.flatMap Deed.ofLine ++ [.prompt]

/-- The shell once it has shown its prompt. -/
def prompted (services : Services State) (shell : Shell State) : Shell State :=
  { shell with state := services.say Help.prompt shell.state }

/-- The first line of a session decides whether the others are dealt with. -/
theorem performAll_deeds_cons (services : Services State) (line : Bytes) (lines : List Bytes)
    (shell : Shell State) :
    Deed.performAll services (deeds (line :: lines)) shell =
      match (Deed.ofBytes line).perform services (shell.prompted services) with
      | (.exit, shell) => (.exit, shell)
      | (.proceed, shell) => Deed.performAll services (deeds lines) shell := rfl

/-- The loop does what its lines call for, one line at a time. -/
theorem run_of_delivers {readLine : LineReader Reader State} {reader : Reader}
    {lines : List Bytes} (h : Delivers readLine reader lines) (services : Services State)
    (shell : Shell State) {fuel : Nat} (hfuel : lines.length < fuel) :
    shell.run services readLine fuel reader =
      (.ok (), (Deed.performAll services (deeds lines) shell).2) := by
  induction lines generalizing reader shell fuel with
  | nil =>
    obtain ⟨fuel, rfl⟩ := Nat.exists_eq_add_one_of_ne_zero (Nat.ne_of_gt hfuel)
    obtain ⟨later, hread⟩ := h (services.say Help.prompt shell.state)
    rw [run]
    simp only [hread]
    rfl
  | cons line lines ih =>
    obtain ⟨fuel, rfl⟩ := Nat.exists_eq_add_one_of_ne_zero (Nat.ne_of_gt (Nat.zero_lt_of_lt hfuel))
    obtain ⟨hne, later, hread, hlater⟩ := h
    have hfuel : lines.length < fuel := Nat.lt_of_succ_lt_succ hfuel
    rw [run, performAll_deeds_cons]
    cases htext : Text.ofUtf8? line with
    | none =>
      have hline : Text.line? line = .error .notText := by simp [Text.line?, hne, htext]
      simp only [hread, hline, Deed.ofBytes, htext]
      exact ih hlater _ hfuel
    | some text =>
      have hline : Text.line? line = .ok (some text) := by simp [Text.line?, hne, htext]
      simp only [hread, hline, Deed.ofBytes, htext, Deed.perform, prompted]
      rcases execute services text { shell with state := services.say Help.prompt shell.state }
        with ⟨_ | _, next⟩
      · exact ih hlater next hfuel
      · rfl

theorem runPieces_eq (services : Services State) {pieces : List Piece}
    (h : Piece.Unfailing pieces) (shell : Shell State) :
    shell.runPieces services pieces =
      (.ok (), (Deed.performAll services (deeds (Text.lines (Piece.content pieces))) shell).2) :=
  run_of_delivers (Piece.delivers_lines State h) services shell
    (Nat.lt_of_le_of_lt (Text.length_lines_le _) (Piece.length_content_lt_bound pieces))

/-- How a session over some lines ends: all lines are dealt with and one more prompt is shown, or
the session is left at the first text that asks to exit, and nothing behind it is done. -/
inductive Ends (services : Services State) (lines : List Bytes) (shell after : Shell State) : Prop
  | input (all : Deed.performAll services (deeds lines) shell = (.proceed, after))
  | exit {before rest : List Bytes} {line : Bytes} {text : String} {asked : Shell State}
      (place : lines = before ++ line :: rest) (isText : Text.ofUtf8? line = some text)
      (reached : Deed.performAll services (deeds before) shell = (.proceed, asked))
      (asks : asked.execute services text = (.exit, after))

theorem ends_performAll (services : Services State) (lines : List Bytes) (shell : Shell State) :
    Ends services lines shell (Deed.performAll services (deeds lines) shell).2 := by
  induction lines generalizing shell with
  | nil => exact .input rfl
  | cons line lines ih =>
    cases hdeed : (Deed.ofBytes line).perform services (shell.prompted services) with
    | mk flow next =>
      cases flow with
      | proceed =>
        have hgoes (later : List Bytes) : Deed.performAll services (deeds (line :: later)) shell =
            Deed.performAll services (deeds later) next := by
          rw [performAll_deeds_cons, hdeed]
        rw [hgoes]
        cases ih next with
        | input hall => exact .input ((hgoes lines).trans hall)
        | exit hplace htext hreached hasks =>
          exact .exit (congrArg (line :: ·) hplace) htext ((hgoes _).trans hreached) hasks
      | exit =>
        -- a complaint never ends the session, so the line was a text
        cases htext : Text.ofUtf8? line with
        | none => simp [Deed.ofBytes, Deed.perform, htext] at hdeed
        | some text =>
          rw [performAll_deeds_cons, hdeed]
          rw [Deed.ofBytes, htext] at hdeed
          have hplace : line :: lines = [] ++ line :: lines := rfl
          exact .exit hplace htext rfl hdeed

/-- The last line calls for the same with a newline behind it. -/
theorem performAll_deeds_append_newline (services : Services State) (init : List Bytes)
    (last : Bytes) (shell : Shell State) :
    Deed.performAll services (deeds (init ++ [last ++ [Text.newline]])) shell =
      Deed.performAll services (deeds (init ++ [last])) shell := by
  induction init generalizing shell with
  | nil =>
    rw [List.nil_append, List.nil_append, performAll_deeds_cons, performAll_deeds_cons,
      Deed.perform_ofBytes_append_newline]
  | cons line init ih =>
    rw [List.cons_append, List.cons_append, performAll_deeds_cons, performAll_deeds_cons]
    simp only [ih]

end Shell

/-! ## Complaints -/

/-- A diagnostic for the user is one line, whatever it says. -/
theorem Log.userLines_eq (message : String) : userLines message = line userLeader message := by
  have haccepts : (Channel.mk (closeHeading userTarget.toList) []).accepts userTarget = true := by
    decide
  simp [userLines, shellRouter, Router.add, Router.log, Channel.tell, haccepts]

/-- A complaint is one line on standard error, and the last status stays. -/
theorem Deed.perform_complain {State : Type} (services : Services State) (shell : Shell State) :
    complain.perform services shell =
      (.proceed, { shell with
        state := services.complain
          "smallsh: ignoring line: stream did not contain valid UTF-8\n" shell.state }) := by
  rw [perform, Shell.tell, Log.userLines_eq]
  rfl

/-! ## Sessions -/

namespace Shell

variable {State : Type}

/-- **A session is its lines, carried out in order.** A source that never fails is gone through line
by line, to its end or to the first text that asks to exit. A line that is not text costs one line
on standard error and changes neither the last status nor anything about the process, its working
directory included. A newline that the last line lacks makes no difference. -/
theorem runPieces_carries_out_lines (services : Services State) {pieces : List Piece}
    (h : Piece.Unfailing pieces) (shell : Shell State) :
    (∃ lines after, (∀ cut, Text.Lines (Piece.content pieces) cut ↔ cut = lines) ∧
      shell.runPieces services pieces = (.ok (), after) ∧ Ends services lines shell after) ∧
    (∀ shell : Shell State, Deed.complain.perform services shell =
      (.proceed, { shell with
        state := services.complain
          "smallsh: ignoring line: stream did not contain valid UTF-8\n" shell.state })) ∧
    (∀ (World File Place : Type) (host : Host World File Place) (patience : Nat)
      (home : Option Bytes) (shell : Shell (Supervisor World File Place)),
      (Deed.complain.perform (Supervisor.services host patience home) shell).2.state.attributes =
        shell.state.attributes) ∧
    (∀ finished, Piece.Unfailing finished →
      Piece.content pieces ≠ [] → (Piece.content pieces).getLast? ≠ some Text.newline →
      Piece.content finished = Piece.content pieces ++ [Text.newline] →
      shell.runPieces services finished = shell.runPieces services pieces) := by
  refine ⟨⟨Text.lines (Piece.content pieces), _, fun _ => Text.lines_iff,
    runPieces_eq services h shell, ends_performAll services _ shell⟩,
    Deed.perform_complain services, ?_, ?_⟩
  · intro World File Place host patience home shell
    rw [Deed.perform_complain]
    rfl
  · intro finished hfinished hne hlast hcontent
    obtain ⟨init, last, hlines, hnext⟩ := (Text.lines_lines _).append_newline hne hlast
    rw [runPieces_eq services hfinished, runPieces_eq services h, hcontent, hnext, hlines,
      performAll_deeds_append_newline]

/-- Services that keep a record of what was run and written, and do nothing else. -/
def recording : Services (List String) where
  launchBackground _ record := (.error .emptyCommand, record)
  runForeground command record :=
    (.ok { status := .exited 0, message := none }, record ++ command.arguments)
  home := none
  changeDirectory _ record := (.ok (), record)
  say text record := record ++ [text]
  complain text record := record ++ [text]

/-- Two texts with a line between them that is none. The first is cut in two, the last lacks its
newline. -/
def mixedInput : List Piece :=
  [.bytes (Text.utf8 "tr"), .interrupted, .bytes (Text.utf8 "ue\n"), .bytes [0xFF, Text.newline],
    .bytes (Text.utf8 "status")]

theorem runPieces_carries_out_mixed_input :
    Piece.Unfailing mixedInput ∧
    (∃ after, Shell.runPieces recording mixedInput { state := [] } = (.ok (), after) ∧
      Ends recording [Text.utf8 "true\n", [0xFF, Text.newline], Text.utf8 "status"]
        { state := [] } after) ∧
    Shell.runPieces recording (mixedInput ++ [.bytes [Text.newline]]) { state := [] } =
      Shell.runPieces recording mixedInput { state := [] } := by
  have hunfailing : Piece.Unfailing mixedInput := by simp [Piece.Unfailing, mixedInput]
  obtain ⟨⟨lines, after, hlines, hrun, hends⟩, -, -, hnewline⟩ :=
    runPieces_carries_out_lines recording hunfailing { state := [] }
  have hcut : [Text.utf8 "true\n", [0xFF, Text.newline], Text.utf8 "status"] = lines :=
    (hlines _).1 (Text.lines_iff.2 (by decide))
  rw [← hcut] at hends
  refine ⟨hunfailing, ⟨after, hrun, hends⟩, hnewline _ ?_ (by decide) (by decide) (by decide)⟩
  simp [Piece.Unfailing, mixedInput]

example : (Shell.runPieces recording mixedInput { state := [] }).2.state =
    [": ", "true", ": ", "smallsh: ignoring line: stream did not contain valid UTF-8\n", ": ",
      "exit value 0\n", ": "] := by
  decide +kernel

end Shell

end JobShell
