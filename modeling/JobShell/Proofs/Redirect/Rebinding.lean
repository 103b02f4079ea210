import JobShell.Proofs.Redirect.Install

/-!
# JobShell.Proofs.Redirect.Rebinding — redirections of a shell whose streams are open

In a shell that has standard input and output open, the files of a command's redirections are opened
behind them. Then nothing gets in the way of anything: binding the streams always succeeds, it frees
the numbers under which the files were opened, and the table that is left is the shell's own with
its streams led elsewhere (`install_eq_lead`).

`Host.Opens` says what it is that a file of a redirection is there.
-/

namespace JobShell

variable {File : Type}

namespace Descriptors

/-- Whether both streams that can be redirected are open. -/
def StreamsOpen (table : Descriptors File) : Prop :=
  ∀ stream : Stream, table.get stream.number ≠ none

/-- The table with a stream led to a file, if there is one, that stays open on exec. -/
def lead (table : Descriptors File) (stream : Stream) : Option File → Descriptors File
  | some file => table.set stream.number (some ⟨file, false⟩)
  | none => table

/-- A table after a file may have been opened behind the streams. -/
inductive Adds (table : Descriptors File) :
    Option File → Binding → Descriptors File → Prop where
  | inherit : Adds table none .inherit table
  | opened {number : Nat} (file : File) (free : table.get number = none) (behind : 1 < number)
      (room : number < table.limit) :
      Adds table (some file) (.opened number) (table.set number (some ⟨file, true⟩))

theorem set_comm (table : Descriptors File) {number other : Nat} (h : number ≠ other)
    (entry second : Option (Descriptor File)) :
    (table.set number entry).set other second = (table.set other second).set number entry := by
  simp only [set, mk.injEq, and_true]
  funext place
  by_cases hother : place = other
  · rw [if_pos hother, if_neg (by omega), if_pos hother]
  · rw [if_neg hother, if_neg hother]

/-- Freeing a number that was free before leads back. -/
theorem set_set_none {table : Descriptors File} {number : Nat} (h : table.get number = none)
    (entry : Option (Descriptor File)) : (table.set number entry).set number none = table := by
  obtain ⟨get, limit⟩ := table
  simp only [set, mk.injEq, and_true]
  funext place
  split
  · next hplace => rw [hplace, ← h]
  · rfl

theorem number_le_one (stream : Stream) : stream.number ≤ 1 := by
  cases stream <;> decide

variable {table opened both : Descriptors File} {file other : Option File}
  {binding second : Binding}

/-- Where the streams are open, a file is opened behind them. -/
theorem Places.adds (h : table.Places file binding opened) (hstreams : table.StreamsOpen) :
    table.Adds file binding opened := by
  cases h with
  | inherit => exact .inherit
  | @opened number file hfree =>
    have hnone := (lowestFree?_eq_some hfree).1
    refine .opened file hnone ?_ ?_
    · have hoff : ∀ stream : Stream, number ≠ stream.number := by
        rintro stream rfl
        exact hstreams stream hnone
      have hinput : number ≠ 0 := hoff .input
      have houtput : number ≠ 1 := hoff .output
      omega
    · have hmem := List.mem_of_find?_eq_some hfree
      simpa using hmem

/-- A file behind the streams does not touch them. -/
theorem Adds.get_stream (h : table.Adds file binding opened) (stream : Stream) :
    opened.get stream.number = table.get stream.number := by
  cases h with
  | inherit => rfl
  | opened file free behind room =>
    have hle := number_le_one stream
    exact get_set_of_ne _ _ (by omega)

theorem Adds.streamsOpen (h : table.Adds file binding opened) (hstreams : table.StreamsOpen) :
    opened.StreamsOpen := by
  intro stream
  rw [h.get_stream]
  exact hstreams stream

/-- Two files might as well have been opened in the other order. -/
theorem Adds.swap (h : table.Adds file binding opened) (hsecond : opened.Adds other second both) :
    ∃ middle, table.Adds other second middle ∧ middle.Adds file binding both := by
  cases h with
  | inherit => exact ⟨both, hsecond, .inherit⟩
  | @opened number file free behind room =>
    cases hsecond with
    | inherit => exact ⟨table, .inherit, .opened file free behind room⟩
    | @opened next other free' behind' room' =>
      have hne : next ≠ number := by
        rintro rfl
        simp at free'
      rw [get_set_of_ne _ _ hne] at free'
      refine ⟨_, .opened other free' behind' room', ?_⟩
      rw [set_comm _ hne.symm]
      exact .opened file (by rwa [get_set_of_ne _ _ hne.symm]) behind room

/-- Leading a stream elsewhere does not touch a file behind the streams. -/
theorem Adds.lead (h : table.Adds file binding opened) (stream : Stream) (target : Option File) :
    (table.lead stream target).Adds file binding (opened.lead stream target) := by
  cases target with
  | none => exact h
  | some target =>
    cases h with
    | inherit => exact .inherit
    | @opened number file free behind room =>
      have hle := number_le_one stream
      have hne : number ≠ stream.number := by omega
      change (table.set stream.number _).Adds _ _ ((table.set number _).set stream.number _)
      rw [set_comm _ hne]
      exact .opened file (by rwa [get_set_of_ne _ _ hne]) behind room

/-- Standard output leads to the output file, if there is one. -/
theorem file?_lead_lead (table : Descriptors File) (output input : Option File) :
    ((table.lead .output output).lead .input input).file? standardOutput =
      output.or (table.file? standardOutput) := by
  cases output <;> cases input <;> rfl

end Descriptors

open Descriptors

variable {table opened both : Descriptors File} {output input : Option File}
  {outputBinding inputBinding : Binding}

/-- Binding a stream to a file behind the streams leads it there and frees the number of the
file. -/
theorem Binding.install_of_adds {binding : Binding} {file : Option File}
    (h : table.Adds file binding opened) (stream : Stream) :
    binding.install stream opened = .ok (table.lead stream file) := by
  cases h with
  | inherit => rfl
  | @opened number file free behind room =>
    have hle := number_le_one stream
    have hne : number ≠ stream.number := by omega
    have hlimit : ¬table.limit ≤ stream.number := by omega
    have hduplicate : (table.set number (some ⟨file, true⟩)).duplicate number stream.number =
        .ok ((table.set number (some ⟨file, true⟩)).set stream.number (some ⟨file, false⟩)) := by
      rw [duplicate, get_set_self]
      simp only [if_neg hne]
      exact if_neg hlimit
    rw [install, if_neg hne, hduplicate]
    change Except.ok _ = Except.ok _
    rw [set_comm _ hne, set_set_none (by rwa [get_set_of_ne _ _ hne])]
    rfl

/-- **Binding both streams leads them to their files and does nothing else**, in a shell that has
both of them open. -/
theorem Redirections.install_eq_lead (hstreams : table.StreamsOpen)
    (houtput : table.Places output outputBinding opened)
    (hinput : opened.Places input inputBinding both) :
    (⟨inputBinding, outputBinding⟩ : Redirections).install both =
      (.ok (), (table.lead .output output).lead .input input) := by
  have hopened := houtput.adds hstreams
  obtain ⟨middle, hmiddle, hboth⟩ := hopened.swap (hinput.adds (hopened.streamsOpen hstreams))
  have hready : (⟨inputBinding, outputBinding⟩ : Redirections).failure? = none := by
    cases houtput <;> cases hinput <;> rfl
  have hfirst := Binding.install_of_adds hboth .output
  have hsecond := Binding.install_of_adds (hmiddle.lead .output output) .input
  simp only [install, hready, hfirst, hsecond]

/-! ## Opening one file -/

variable {World Place : Type}

namespace Host

/-- The file of a redirection is there, or none was asked for. -/
inductive Opens (host : Host World File Place) (stream : Stream) (place : Place)
    (table : Descriptors File) (world : World) :
    Option String → Option File → Descriptors File → World → Prop where
  | unasked : Opens host stream place table world none none table world
  | opened {path : String} {number : Nat} {file : File} {after : World}
      (opens : host.openFile stream path place table world =
        (.ok (number, table.set number (some ⟨file, true⟩)), after)) :
      Opens host stream place table world (some path) (some file)
        (table.set number (some ⟨file, true⟩)) after

variable {host : Host World File Place} {stream : Stream} {place : Place}
  {table opened : Descriptors File} {world after : World}

/-- The file of a redirection can be opened or not. -/
theorem opens_or_refused (host : Host World File Place) (stream : Stream) (path : Option String)
    (place : Place) (table : Descriptors File) (world : World) :
    (∃ file opened after, host.Opens stream place table world path file opened after) ∨
      ∃ name failure after, path = some name ∧
        host.openFile stream name place table world = (.error failure, after) := by
  cases path with
  | none => exact .inl ⟨none, table, world, .unasked⟩
  | some name =>
    rcases hopen : host.openFile stream name place table world with
      ⟨failure | ⟨number, opened⟩, after⟩
    · exact .inr ⟨name, failure, after, rfl, hopen⟩
    · obtain ⟨file, -, hinsert⟩ := openFile_ok hopen
      obtain ⟨free, -, hpair⟩ := Option.map_eq_some_iff.1 hinsert
      obtain ⟨rfl, rfl⟩ := Prod.mk.inj hpair
      exact .inl ⟨some file, _, after, .opened hopen⟩

/-- A file that is there stands under the lowest free number. -/
theorem Opens.bind_eq {path : Option String} {file : Option File}
    (h : host.Opens stream place table world path file opened after) :
    ∃ binding, table.Places file binding opened ∧
      host.bind stream path place table world = (binding, opened, after) := by
  cases h with
  | unasked => exact ⟨.inherit, .inherit, rfl⟩
  | @opened path number file after opens =>
    obtain ⟨placed, -, hinsert⟩ := openFile_ok opens
    obtain ⟨free, hfree, hpair⟩ := Option.map_eq_some_iff.1 hinsert
    obtain ⟨rfl, -⟩ := Prod.mk.inj hpair
    exact ⟨.opened free, .opened file hfree, by rw [bind, opens]⟩

/-- A file that cannot be opened only leaves a message. -/
theorem bind_of_refused {path : String} {failure : Failure}
    (h : host.openFile stream path place table world = (.error failure, after)) :
    host.bind stream (some path) place table world =
      (.failed (stream.openFailure path), table, after) := by
  rw [bind, h]

end Host

end JobShell
