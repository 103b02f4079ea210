import JobShell.Proofs.Child.Wording
import JobShell.Proofs.Text.Encoding

/-!
# JobShell.Proofs.Child.Transcript — a stream of notices can be read back

Notices follow each other on standard output without anything between them, and each one begins and
ends with a line break. Still the bytes tell which jobs were reported, how each of them ended, and
in which order.

* `SelfDelimiting`: a way of writing values such that what is written tells the value and where it
  ends, whatever stands behind it. Words are put in front of what is written, and two ways of
  writing are put one behind the other (`SelfDelimiting.behind`, `SelfDelimiting.pair`).
* `SelfDelimiting.flatMap_inj`: then many values in a row are told as well.
* `selfDelimiting_number`, `Termination.selfDelimiting_written`, `Notice.selfDelimiting_text`: a
  number, the way a job ended and a whole report are written so.
* `Notice.transcript_injective`: a stream of notices tells the reports.
-/

namespace JobShell

/-! ## Writing that tells where it ends -/

section

variable {Value Next Symbol : Type} {write : Value → List Symbol} {writeNext : Next → List Symbol}

/-- What is written tells the value and where it ends, whatever stands behind it. -/
def SelfDelimiting (write : Value → List Symbol) : Prop :=
  ∀ ⦃value other rest behind⦄, write value ++ rest = write other ++ behind →
    value = other ∧ rest = behind

namespace SelfDelimiting

/-- The same symbols may stand in front of what is written. -/
theorem behind (h : SelfDelimiting write) (front : List Symbol) :
    SelfDelimiting fun value => front ++ write value := by
  intro value other rest behind hsame
  rw [List.append_assoc, List.append_assoc, List.append_cancel_left_eq] at hsame
  exact h hsame

/-- Two values may be written one behind the other. -/
theorem pair (h : SelfDelimiting write) (hnext : SelfDelimiting writeNext) :
    SelfDelimiting fun values : Value × Next => write values.1 ++ writeNext values.2 := by
  rintro ⟨value, next⟩ ⟨other, otherNext⟩ rest behind hsame
  simp only [List.append_assoc] at hsame
  obtain ⟨rfl, hlater⟩ := h hsame
  obtain ⟨rfl, hrest⟩ := hnext hlater
  exact ⟨rfl, hrest⟩

/-- Values may be written in place of others that tell them. -/
theorem comp {Source : Type} {value : Source → Value} (h : SelfDelimiting write)
    (hvalue : Function.Injective value) : SelfDelimiting fun source => write (value source) := by
  intro source other rest behind hsame
  obtain ⟨hsource, hrest⟩ := h hsame
  exact ⟨hvalue hsource, hrest⟩

/-- Any number of values may be written in a row, if each of them leaves a trace. -/
theorem flatMap_inj (h : SelfDelimiting write) (hne : ∀ value, write value ≠ [])
    {values others : List Value} (hsame : values.flatMap write = others.flatMap write) :
    values = others := by
  induction values generalizing others with
  | nil =>
    cases others with
    | nil => rfl
    | cons other others =>
      rw [List.flatMap_nil, List.flatMap_cons, eq_comm, List.append_eq_nil_iff] at hsame
      exact absurd hsame.1 (hne other)
  | cons value values ih =>
    cases others with
    | nil =>
      rw [List.flatMap_nil, List.flatMap_cons, List.append_eq_nil_iff] at hsame
      exact absurd hsame.1 (hne value)
    | cons other others =>
      rw [List.flatMap_cons, List.flatMap_cons] at hsame
      obtain ⟨rfl, hrest⟩ := h hsame
      rw [ih hrest]

end SelfDelimiting

end

open Text Decimal

/-! ## The parts of a report -/

/-- A number ends where something stands behind it that is no digit. -/
theorem selfDelimiting_number {stop : Char} (hstop : isNumeral stop = false) :
    SelfDelimiting fun number : Int32 => chars number.toInt ++ [stop] := by
  intro number other rest behind hsame
  simp only [List.append_assoc, List.singleton_append] at hsame
  have hnumeral := congrArg (List.takeWhile isNumeral) hsame
  rw [takeWhile_chars_append _ rest hstop, takeWhile_chars_append _ behind hstop] at hnumeral
  rw [hnumeral, List.append_cancel_left_eq] at hsame
  exact ⟨Int32.toInt_inj.1 (chars_inj hnumeral), (List.cons.inj hsame).2⟩

namespace Termination

/-- The end of a report, as characters. -/
def written (termination : Termination) : List Char :=
  termination.text.toList ++ ['\n']

theorem written_exited (code : Int32) :
    written (.exited code) = "exit value ".toList ++ (chars code.toInt ++ ['\n']) := by
  have htext : text (.exited code) = "exit value " ++ Decimal.text code.toInt := rfl
  rw [written, htext, String.toList_append, Decimal.toList_text, List.append_assoc]

theorem written_killed (signal : Signal) :
    written (.killed signal) =
      "terminated by signal ".toList ++ (chars signal.number.toInt ++ ['\n']) := by
  have htext : text (.killed signal) =
      "terminated by signal " ++ Decimal.text signal.number.toInt := rfl
  rw [written, htext, String.toList_append, Decimal.toList_text, List.append_assoc]

/-- The first letter tells an exit from a signal, and the line break ends the number. -/
theorem selfDelimiting_written : SelfDelimiting written := by
  have hnumber : SelfDelimiting fun number : Int32 => chars number.toInt ++ ['\n'] :=
    selfDelimiting_number (by decide)
  intro termination other rest behind hsame
  cases termination with
  | exited code =>
    cases other with
    | exited otherCode =>
      rw [written_exited, written_exited] at hsame
      obtain ⟨rfl, hrest⟩ := hnumber.behind _ hsame
      exact ⟨rfl, hrest⟩
    | killed signal =>
      rw [written_exited, written_killed] at hsame
      simp at hsame
  | killed signal =>
    cases other with
    | exited code =>
      rw [written_exited, written_killed] at hsame
      simp at hsame
    | killed otherSignal =>
      rw [written_killed, written_killed] at hsame
      obtain ⟨hsignal, hrest⟩ := hnumber.behind _ hsame
      obtain ⟨⟩ := signal
      obtain ⟨⟩ := otherSignal
      exact ⟨congrArg (fun number => Termination.killed ⟨number⟩) hsignal, hrest⟩

end Termination

namespace Notice

/-- The characters of a report. -/
theorem toList_text (pid : Pid) (termination : Termination) :
    (text pid termination).toList =
      "\nbackground pid ".toList ++ ((chars pid.number.toInt ++ [' ']) ++
        ("is done: ".toList ++ termination.written)) := by
  have htext : text pid termination =
      "\nbackground pid " ++ Decimal.text pid.number.toInt ++ " is done: " ++ termination.text ++
        "\n" := rfl
  have hwords : " is done: ".toList = [' '] ++ "is done: ".toList := by decide
  have hnewline : "\n".toList = ['\n'] := by decide
  rw [htext, Termination.written]
  simp only [String.toList_append, Decimal.toList_text, List.append_assoc, hwords, hnewline]

theorem selfDelimiting_text :
    SelfDelimiting fun report : Pid × Termination => (text report.1 report.2).toList := by
  have hpid : Function.Injective Pid.number := by
    rintro ⟨number⟩ ⟨other⟩ rfl
    rfl
  have hnumber : SelfDelimiting fun pid : Pid => chars pid.number.toInt ++ [' '] :=
    (selfDelimiting_number (by decide)).comp hpid
  simp only [toList_text]
  exact (hnumber.pair (Termination.selfDelimiting_written.behind _)).behind _

/-! ## Many notices -/

/-- What the notices for these reports come to, one after the other. -/
def transcript (reports : List (Pid × Termination)) : Bytes :=
  reports.flatMap fun report => Notice.of report.1 report.2

/-- A stream of notices is the encoding of a text, the reports one after the other. -/
theorem transcript_eq (reports : List (Pid × Termination)) :
    transcript reports =
      utf8 (String.ofList (reports.flatMap fun report => (text report.1 report.2).toList)) := by
  simp only [transcript, of_eq_text, utf8, String.toList_ofList, List.flatMap_assoc]

theorem transcript_injective : Function.Injective transcript := by
  intro reports others hsame
  rw [transcript_eq, transcript_eq, utf8_inj, String.ofList_inj] at hsame
  refine selfDelimiting_text.flatMap_inj ?_ hsame
  intro report
  simp [toList_text]

/-- **A stream of notices can be read back.** If two lists of reports, of any lengths and with any
numbers of 32 bits, come to the same bytes, they are the same list: the same jobs, ended in the same
ways, in the same order. In particular two different reports never come to the same notice. -/
theorem transcript_inj :
    (∀ reports others : List (Pid × Termination),
      transcript reports = transcript others ↔ reports = others) ∧
    ∀ (pid other : Pid) (termination ending : Termination),
      Notice.of pid termination = Notice.of other ending ↔ pid = other ∧ termination = ending := by
  refine ⟨fun reports others => transcript_injective.eq_iff, fun pid other termination ending => ?_⟩
  have hsingle : transcript [(pid, termination)] = transcript [(other, ending)] ↔
      [(pid, termination)] = [(other, ending)] := transcript_injective.eq_iff
  simpa [transcript] using hsingle

end Notice

end JobShell
