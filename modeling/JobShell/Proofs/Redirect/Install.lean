import Mathlib.Tactic.Common
import JobShell.Proofs.System.Granting
import JobShell.Redirect.Binding

/-!
# JobShell.Proofs.Redirect.Install — where the standard streams of a program lead

The shell opens the files of a command's redirections and its child binds them. The files take the
lowest free numbers, and in a shell that was started with standard streams closed these can be the
numbers of the streams themselves, so binding one stream may run over the file of the other.

* `get_install_opened`: what binding one stream does to every number of the table.
* `Places`: what opening one file does to the table, without the host that opened it.
* `leadsTo_iff`: both streams lead where they were asked to, and stay open on exec, except when
  both are redirected in a shell that has neither of them open. Then the output file is opened as
  number 0 and the input file as number 1, the output takes the place of the input file, and the
  program finds its output file on standard input and nothing on standard output.
-/

namespace JobShell

variable {File : Type}

namespace Descriptors

/-- The number that an opened file takes is free, and all lower ones are taken. -/
theorem lowestFree?_eq_some {table : Descriptors File} {number : Nat}
    (h : table.lowestFree? = some number) :
    table.get number = none ∧ ∀ lower < number, table.get lower ≠ none := by
  unfold lowestFree? at h
  rw [List.find?_range_eq_some] at h
  obtain ⟨hfree, -, hlower⟩ := h
  refine ⟨by simpa using hfree, ?_⟩
  intro lower hlt hnone
  have := hlower lower hlt
  simp [hnone] at this

theorem get_set (table : Descriptors File) (number other : Nat)
    (entry : Option (Descriptor File)) :
    (table.set number entry).get other = if other = number then entry else table.get other := rfl

theorem get_afterExec (table : Descriptors File) (number : Nat) :
    table.afterExec.get number = (table.get number).filter fun entry => !entry.closeOnExec := rfl

/-- A table after the file of one stream may have been opened: without a file it is as before, and
a file stands under the lowest free number, to be closed on exec. -/
inductive Places (table : Descriptors File) :
    Option File → Binding → Descriptors File → Prop where
  | inherit : Places table none .inherit table
  | opened {number : Nat} (file : File) (hfree : table.lowestFree? = some number) :
      Places table (some file) (.opened number) (table.set number (some ⟨file, true⟩))

/-- Whether a standard stream of a program leads where it was asked to: to the file that was opened
for it, and otherwise to what an exec leaves of the stream of the shell. -/
def LeadsTo (program shell : Descriptors File) (stream : Stream) : Option File → Prop
  | some file => program.get stream.number = some ⟨file, false⟩
  | none => program.get stream.number = shell.afterExec.get stream.number

/-- A stream that is bound to its file before exec leads there after it. -/
theorem leadsTo_of_bound {bound shell : Descriptors File} {stream : Stream} {file : File}
    (h : bound.get stream.number = some ⟨file, false⟩) :
    bound.afterExec.LeadsTo shell stream (some file) := by
  simp [LeadsTo, get_afterExec, h]

/-- A stream that is as in the shell before exec is as in the shell after it. -/
theorem leadsTo_of_kept {bound shell : Descriptors File} {stream : Stream}
    (h : bound.get stream.number = shell.get stream.number) :
    bound.afterExec.LeadsTo shell stream none := by
  simp [LeadsTo, get_afterExec, h]

end Descriptors

open Descriptors

/-! ## Binding one stream -/

namespace Binding

/-- What binding a stream does to the table, number by number: the stream leads to the file, and
the number that the file was opened under is free unless it is the stream's. -/
theorem get_install_opened {table bound : Descriptors File} {number : Nat} {stream : Stream}
    {file : File} {flag : Bool} (hentry : table.get number = some ⟨file, flag⟩)
    (h : (Binding.opened number).install stream table = .ok bound) (other : Nat) :
    bound.get other =
      if other = stream.number then some ⟨file, false⟩
      else if other = number then none
      else table.get other := by
  unfold install at h
  by_cases hown : number = stream.number
  · -- the file has the number of the stream
    have hclear : table.clearCloseOnExec number =
        .ok (table.set number (some ⟨file, false⟩)) := by
      simp [clearCloseOnExec, hentry]
    have hbound : table.set number (some ⟨file, false⟩) = bound := by
      simpa [hown.symm, hclear, Except.mapError] using h
    rw [← hbound, get_set, hown]
    split <;> simp_all
  · -- the file is duplicated, and its own number is freed
    by_cases hlimit : table.limit ≤ stream.number
    · simp [hown, duplicate, hentry, hlimit, Except.mapError, bind, Except.bind] at h
    · have hbound : (table.set stream.number (some ⟨file, false⟩)).set number none = bound := by
        simpa [hown, duplicate, hentry, hlimit, Except.mapError, bind, Except.bind, pure,
          Except.pure] using h
      rw [← hbound, get_set, get_set]
      by_cases hnumber : other = number
      · simp [hnumber, hown]
      · simp [hnumber]

/-- Opening a file for a stream and binding it changes no other stream. -/
theorem get_install_of_ne {table opened bound : Descriptors File} {binding : Binding}
    {stream : Stream} {asked : Option File} (hplaces : table.Places asked binding opened)
    (h : binding.install stream opened = .ok bound) (other : Nat) (hne : other ≠ stream.number) :
    bound.get other = table.get other := by
  cases hplaces with
  | inherit =>
    have hbound : table = bound := by simpa [install] using h
    rw [hbound]
  | opened file hfree =>
    rw [get_install_opened (get_set_self _ _ _) h, if_neg hne]
    split
    · -- the number of the file was free before
      next hnumber => rw [hnumber, (lowestFree?_eq_some hfree).1]
    · next hnumber => rw [get_set, if_neg hnumber]

/-- Opening a file for a stream and binding it makes the stream lead to it. -/
theorem leadsTo_install {table opened bound : Descriptors File} {binding : Binding}
    {stream : Stream} {asked : Option File} (hplaces : table.Places asked binding opened)
    (h : binding.install stream opened = .ok bound) :
    bound.afterExec.LeadsTo table stream asked := by
  cases hplaces with
  | inherit =>
    have hbound : table = bound := by simpa [install] using h
    rw [hbound]
    exact leadsTo_of_kept rfl
  | opened file hfree =>
    apply leadsTo_of_bound
    rw [get_install_opened (get_set_self _ _ _) h, if_pos rfl]

end Binding

/-! ## Binding both streams -/

section BothStreams

variable {table opened both first bound : Descriptors File} {output input : Binding}
  {outputFile inputFile : Option File}

/-- The second file is opened as number 1 exactly if both streams were closed before the first. -/
theorem second_number_eq_one_iff {number second : Nat} {file : File}
    (hfree : table.lowestFree? = some number)
    (hsecond : (table.set number (some ⟨file, true⟩)).lowestFree? = some second) :
    second = 1 ↔ table.get 0 = none ∧ table.get 1 = none := by
  obtain ⟨hnone, hlower⟩ := lowestFree?_eq_some hfree
  obtain ⟨hnone', hlower'⟩ := lowestFree?_eq_some hsecond
  have hne : second ≠ number := by
    rintro rfl
    simp at hnone'
  rw [get_set_of_ne _ _ hne] at hnone'
  constructor
  · -- the first file took a lower number, so it took 0
    rintro rfl
    have hle : number ≤ 1 := by
      by_contra hlt
      exact hlower 1 (by omega) hnone'
    have hzero : number = 0 := by omega
    exact ⟨hzero ▸ hnone, hnone'⟩
  · rintro ⟨hzero, hone⟩
    have hnumber : number = 0 := by
      by_contra hpos
      exact hlower 0 (by omega) hzero
    have hle : second ≤ 1 := by
      by_contra hlt
      refine hlower' 1 (by omega) ?_
      rw [get_set_of_ne _ _ (by omega)]
      exact hone
    omega

/-- With both files opened, both streams lead to them unless the input file has the number of
standard output. -/
theorem leadsTo_both_iff {number second : Nat} {file other : File}
    (hsecond : (table.set number (some ⟨file, true⟩)).lowestFree? = some second)
    (hfirst : (Binding.opened number).install .output
      ((table.set number (some ⟨file, true⟩)).set second (some ⟨other, true⟩)) = .ok first)
    (hbound : (Binding.opened second).install .input first = .ok bound) :
    (bound.afterExec.LeadsTo table .output (some file) ∧
      bound.afterExec.LeadsTo table .input (some other)) ↔ second ≠ 1 := by
  have hne : number ≠ second := by
    rintro rfl
    simpa using (lowestFree?_eq_some hsecond).1
  have hentry : ((table.set number (some ⟨file, true⟩)).set second (some ⟨other, true⟩)).get number
      = some ⟨file, true⟩ := by
    rw [get_set_of_ne _ _ hne, get_set_self]
  have hget := Binding.get_install_opened hentry hfirst
  constructor
  · -- the output would have run over the input file, and then its number was freed
    rintro ⟨hout, -⟩ rfl
    have hone : first.get 1 = some ⟨file, false⟩ := by rw [hget 1]; rfl
    have hgone : bound.get 1 = none := by
      rw [Binding.get_install_opened hone hbound 1]
      rfl
    simp [LeadsTo, get_afterExec, Stream.number, standardOutput, hgone] at hout
  · intro hother
    have hother : second ≠ Stream.output.number := hother
    have hkept : first.get second = some ⟨other, true⟩ := by
      rw [hget second, if_neg hother, if_neg hne.symm, get_set_self]
    have hfinal := Binding.get_install_opened hkept hbound
    constructor
    · apply leadsTo_of_bound
      have hgot := hget Stream.output.number
      rw [if_pos rfl] at hgot
      rw [hfinal, if_neg (by decide), if_neg (Ne.symm hother), hgot]
    · apply leadsTo_of_bound
      rw [hfinal, if_pos rfl]

/-- Both streams lead where they were asked to exactly if not both of them are redirected in a
shell that has neither of them open. -/
theorem leadsTo_iff (houtput : table.Places outputFile output opened)
    (hinput : opened.Places inputFile input both)
    (hfirst : output.install .output both = .ok first)
    (hbound : input.install .input first = .ok bound) :
    (bound.afterExec.LeadsTo table .output outputFile ∧
      bound.afterExec.LeadsTo table .input inputFile) ↔
      ¬(outputFile.isSome ∧ inputFile.isSome ∧ table.get 0 = none ∧ table.get 1 = none) := by
  cases houtput with
  | inherit =>
    -- only the input is bound
    have hsame : both = first := by simpa [Binding.install] using hfirst
    subst hsame
    have hkept := Binding.get_install_of_ne hinput hbound Stream.output.number (by decide)
    simp [Binding.leadsTo_install hinput hbound, leadsTo_of_kept hkept]
  | opened file hfree =>
    cases hinput with
    | inherit =>
      -- only the output is bound
      have hsame : first = bound := by simpa [Binding.install] using hbound
      subst hsame
      have houtput : table.Places (some file) (.opened _) _ := .opened file hfree
      have hkept := Binding.get_install_of_ne houtput hfirst Stream.input.number (by decide)
      simp [Binding.leadsTo_install houtput hfirst, leadsTo_of_kept hkept]
    | opened other hsecond =>
      rw [leadsTo_both_iff hsecond hfirst hbound, Ne,
        second_number_eq_one_iff hfree hsecond]
      simp

end BothStreams

/-! ## Opening the files -/

variable {World Place : Type}

namespace Host

/-- Opens the file of a stream, in the direction that the stream needs. -/
def openStream (host : Host World File Place) (stream : Stream) (place : Place) (path : Bytes)
    (world : World) : Except Errno File × World :=
  match stream with
  | .input => host.openInput place path world
  | .output => host.openOutput place path world

/-- The file that the host opens for a stream, if one is asked for, and the system after it. -/
def opening (host : Host World File Place) (stream : Stream) (path : Option String) (place : Place)
    (world : World) : Option File × World :=
  match path with
  | none => (none, world)
  | some path =>
    let (result, world) := host.openStream stream place (Text.utf8 path) world
    (result.toOption, world)

/-- A redirection that has been opened has the host's file under the lowest free number. -/
theorem openFile_ok {host : Host World File Place} {stream : Stream} {path : String}
    {place : Place} {table opened : Descriptors File} {world after : World} {number : Nat}
    (h : host.openFile stream path place table world = (.ok (number, opened), after)) :
    ∃ file, host.openStream stream place (Text.utf8 path) world = (.ok file, after) ∧
      table.insert? file = some (number, opened) := by
  by_cases hnul : 0 ∈ Text.utf8 path
  · simp [openFile, hnul] at h
  · cases hfull : table.lowestFree?.isNone with
    | true => simp [openFile, hnul, hfull] at h
    | false =>
      rcases hopen : host.openStream stream place (Text.utf8 path) world with ⟨_ | file, next⟩
      · cases stream <;>
        · simp only [openStream] at hopen
          simp [openFile, hnul, hfull, hopen] at h
      · cases hinsert : table.insert? file with
        | none =>
          cases stream <;>
          · simp only [openStream] at hopen
            simp [openFile, hnul, hfull, hopen, hinsert] at h
        | some placed =>
          have hok : placed = (number, opened) ∧ next = after := by
            cases stream <;>
            · simp only [openStream] at hopen
              simpa [openFile, hnul, hfull, hopen, hinsert] using h
          obtain ⟨rfl, rfl⟩ := hok
          exact ⟨file, rfl, hinsert⟩

/-- A binding that did not fail has the file that the host opened under the lowest free number. -/
theorem places_of_bind {host : Host World File Place} {stream : Stream} {path : Option String}
    {place : Place} {table opened : Descriptors File} {world after : World} {binding : Binding}
    (h : host.bind stream path place table world = (binding, opened, after))
    (hready : binding.failure? = none) :
    table.Places (host.opening stream path place world).1 binding opened ∧
      (host.opening stream path place world).1.isSome = path.isSome ∧
      after = (host.opening stream path place world).2 := by
  cases path with
  | none =>
    obtain ⟨rfl, rfl, rfl⟩ : Binding.inherit = binding ∧ table = opened ∧ world = after := by
      simpa [bind] using h
    exact ⟨.inherit, rfl, rfl⟩
  | some path =>
    rcases hopen : host.openFile stream path place table world with ⟨_ | ⟨number, target⟩, next⟩
    · -- the binding would carry a message
      simp only [bind, hopen, Prod.mk.injEq] at h
      obtain ⟨rfl, -, -⟩ := h
      simp [Binding.failure?] at hready
    · simp only [bind, hopen, Prod.mk.injEq] at h
      obtain ⟨rfl, rfl, rfl⟩ := h
      obtain ⟨file, hstream, hinsert⟩ := openFile_ok hopen
      obtain ⟨free, hfree, hpair⟩ := Option.map_eq_some_iff.1 hinsert
      obtain ⟨rfl, rfl⟩ := Prod.mk.inj hpair
      have hfile : host.opening stream (some path) place world = (some file, next) := by
        simp [opening, hstream, Except.toOption]
      rw [hfile]
      exact ⟨.opened file hfree, rfl, rfl⟩

end Host

/-- **Where the standard streams of a command lead.** Take any command, any table of open files and
any system, and let both files be opened and both streams be bound. Then each stream of the program
leads to its file if there is one, and otherwise where the shell's own stream leads, exactly if not
both streams are redirected in a shell that has neither of them open. -/
theorem streams_lead_as_asked_iff (host : Host World File Place) (command : Command) (mode : Mode)
    (place : Place) (table : Descriptors File) (world : World) {redirections : Redirections}
    {opened bound : Descriptors File} {after : World}
    (hresolve : host.redirect command mode place table world = (redirections, opened, after))
    (hready : redirections.failure? = none)
    (hinstall : redirections.install opened = (.ok (), bound)) :
    let output := host.opening .output command.output place world
    let input := host.opening .input (command.inputPath mode) place output.2
    output.1.isSome = command.output.isSome ∧
      input.1.isSome = (command.inputPath mode).isSome ∧
      ((bound.afterExec.LeadsTo table .output output.1 ∧
          bound.afterExec.LeadsTo table .input input.1) ↔
        ¬(command.output.isSome ∧ (command.inputPath mode).isSome ∧
          table.get standardInput = none ∧ table.get standardOutput = none)) := by
  rcases hout : host.bind .output command.output place table world with ⟨outBinding, middle, next⟩
  rcases hin : host.bind .input (command.inputPath mode) place middle next with
    ⟨inBinding, both, last⟩
  simp only [Host.redirect, hout, hin, Prod.mk.injEq] at hresolve
  obtain ⟨rfl, rfl, rfl⟩ := hresolve
  obtain ⟨houtReady, hinReady⟩ : outBinding.failure? = none ∧ inBinding.failure? = none := by
    simpa [Redirections.failure?] using hready
  obtain ⟨houtPlaces, houtAsked, rfl⟩ := Host.places_of_bind hout houtReady
  obtain ⟨hinPlaces, hinAsked, -⟩ := Host.places_of_bind hin hinReady
  -- a successful installation has bound both streams
  obtain ⟨first, hfirst, hsecond⟩ : ∃ first, outBinding.install .output both = .ok first ∧
      inBinding.install .input first = .ok bound := by
    simp only [Redirections.install, hready] at hinstall
    cases hfirst : outBinding.install .output both with
    | error message => simp [hfirst] at hinstall
    | ok first =>
      cases hsecond : inBinding.install .input first with
      | error message => simp [hfirst, hsecond] at hinstall
      | ok second =>
        simp only [hfirst, hsecond, Prod.mk.injEq, true_and] at hinstall
        exact ⟨first, rfl, hinstall ▸ hsecond⟩
  refine ⟨houtAsked, hinAsked, ?_⟩
  rw [leadsTo_iff houtPlaces hinPlaces hfirst hsecond, houtAsked, hinAsked]
  rfl

/-- A command that has both streams redirected. -/
def Command.bothRedirected : Command :=
  { arguments := ["cat"], input := some "in", output := some "out" }

/-- With standard input closed alone the output file takes its number and has to move. -/
theorem streams_lead_with_input_closed :
    ∃ redirections opened bound,
      Host.granting.redirect .bothRedirected .foreground () (.startedWith [1, 2]) 0 =
          (redirections, opened, 0) ∧
        redirections = ⟨.opened 3, .opened 0⟩ ∧
        redirections.install opened = (.ok (), bound) ∧
        bound.afterExec.LeadsTo (.startedWith [1, 2]) .output (some (.output, Text.utf8 "out")) ∧
        bound.afterExec.LeadsTo (.startedWith [1, 2]) .input (some (.input, Text.utf8 "in")) := by
  refine ⟨⟨.opened 3, .opened 0⟩, _, _, rfl, rfl, rfl, ?_⟩
  have h := streams_lead_as_asked_iff Host.granting .bothRedirected .foreground ()
    (.startedWith [1, 2]) 0 rfl rfl rfl
  refine h.2.2.2 ?_
  rintro ⟨-, -, -, hclosed⟩
  simp [startedWith, standardOutput] at hclosed

/-- With both streams closed the files are opened crosswise: the program finds its output file on
standard input, and standard output is closed. -/
theorem streams_cross_with_both_closed :
    ∃ redirections opened bound,
      Host.granting.redirect .bothRedirected .foreground () (.startedWith [2]) 0 =
          (redirections, opened, 0) ∧
        redirections.failure? = none ∧
        redirections.install opened = (.ok (), bound) ∧
        bound.afterExec.get standardInput = some ⟨(.output, Text.utf8 "out"), false⟩ ∧
        bound.afterExec.get standardOutput = none ∧
        ¬(bound.afterExec.LeadsTo (.startedWith [2]) .output (some (.output, Text.utf8 "out")) ∧
          bound.afterExec.LeadsTo (.startedWith [2]) .input (some (.input, Text.utf8 "in"))) := by
  refine ⟨⟨.opened 1, .opened 0⟩, _, _, rfl, rfl, rfl, rfl, rfl, ?_⟩
  rintro ⟨hout, -⟩
  cases hout

end JobShell
