import Mathlib.Data.List.TakeWhile
import Mathlib.Data.Set.Basic
import JobShell.Proofs.Command.Reading
import JobShell.Proofs.Text.Words

/-!
# JobShell.Proofs.Command.RoundTrip — writing a command as a line and reading it back

Not every command can be written as a line: an argument with a blank in it falls apart, and one
that is a marker is read as one. `Command.WellFormed` lists what a command has to satisfy, and the
result is that these are exactly the commands that reading ever answers, and exactly those that
survive being written and read back (`wellFormed_iff_read_render`).

The proof goes through the words of a written line, `Command.words`.
-/

namespace JobShell

/-- Whether a text can stand on a line for itself: it is one word, and none of the markers. -/
structure IsName (text : String) : Prop where
  isWord : Text.IsWord text
  not_marker : ∀ marker : Marker, text ≠ marker.text

namespace Command

/-- Whether a command can be written as a line: there are not too many arguments, and each of them
and each file name can stand for itself. -/
structure WellFormed (command : Command) : Prop where
  length_arguments : command.arguments.length ≤ maxArguments + 1
  arguments : ∀ argument ∈ command.arguments, IsName argument
  input : ∀ path ∈ command.input, IsName path
  output : ∀ path ∈ command.output, IsName path

/-! ## The words of a written line -/

/-- The words that a redirection is written with. -/
def redirectionWords (marker : Marker) : Option String → List String
  | some path => [marker.text, path]
  | none => []

/-- The words behind the arguments. -/
def trailingWords (command : Command) : List String :=
  redirectionWords .input command.input ++ redirectionWords .output command.output ++
    if command.background then [Marker.background.text] else []

/-- The words that a command is written with. -/
def words (command : Command) : List String :=
  command.arguments ++ command.trailingWords

theorem isWord_text (marker : Marker) : Text.IsWord marker.text := by
  refine ⟨by cases marker <;> decide, ?_⟩
  intro c hmem
  have hc : c = '<' ∨ c = '>' ∨ c = '&' := by
    cases marker <;> simp [Marker.text] at hmem <;> simp [hmem]
  rcases hc with rfl | rfl | rfl <;> rfl

/-- A redirection adds its words to any line. -/
theorem words_append_renderRedirection (line : String) (marker : Marker) {path : Option String}
    (hpath : ∀ name ∈ path, IsName name) :
    Text.words (line ++ renderRedirection marker path) =
      Text.words line ++ redirectionWords marker path := by
  cases path with
  | none => simp [renderRedirection, redirectionWords]
  | some name =>
    have hname : Text.IsWord name := (hpath name rfl).isWord
    have hline : line ++ renderRedirection marker (some name) =
        line ++ " " ++ (marker.text ++ " " ++ name) := by
      simp [renderRedirection, String.append_assoc]
    rw [hline, Text.words_append_space, Text.words_append_space,
      Text.words_of_isWord (isWord_text marker), Text.words_of_isWord hname]
    rfl

theorem words_render {command : Command} (h : command.WellFormed) :
    Text.words command.render = command.words := by
  have harguments : Text.words (" ".intercalate command.arguments) = command.arguments :=
    Text.words_intercalate fun argument hmem => (h.arguments argument hmem).isWord
  have hbackground (line : String) :
      Text.words (line ++ if command.background then " " ++ Marker.background.text else "") =
        Text.words line ++ if command.background then [Marker.background.text] else [] := by
    split
    · rw [← String.append_assoc, Text.words_append_space,
        Text.words_of_isWord (isWord_text .background)]
    · simp
  unfold render
  rw [hbackground, words_append_renderRedirection _ _ h.output,
    words_append_renderRedirection _ _ h.input, harguments]
  simp [words, trailingWords]

/-! ## Reading the words back -/

theorem isPlain_of_isName {text : String} (h : IsName text) : Marker.isPlain text = true :=
  Marker.isPlain_iff.2 h.not_marker

/-- Words that are no markers are passed over in the search for a file. -/
theorem fileAfter_append {words : List String} (hwords : ∀ word ∈ words, IsName word)
    (marker : Marker) (rest : List String) :
    fileAfter marker (words ++ rest) = fileAfter marker rest := by
  induction words with
  | nil => rfl
  | cons word words ih =>
    have hne : word ≠ marker.text := (hwords word List.mem_cons_self).not_marker marker
    have hrest := ih fun other hother => hwords other (List.mem_cons_of_mem _ hother)
    simpa [fileAfter, hne] using hrest

/-- A redirection is found where it is written. -/
theorem fileAfter_own (marker : Marker) {path : Option String} (hpath : ∀ name ∈ path, IsName name)
    (rest : List String) :
    fileAfter marker (redirectionWords marker path ++ rest) = path.or (fileAfter marker rest) := by
  cases path with
  | none => simp [redirectionWords]
  | some name =>
    have hplain := isPlain_of_isName (hpath name rfl)
    simp [redirectionWords, fileAfter, hplain]

/-- The words of one redirection are nothing to another. -/
theorem fileAfter_other {marker other : Marker} (hne : marker ≠ other) {path : Option String}
    (hpath : ∀ name ∈ path, IsName name) (rest : List String) :
    fileAfter marker (redirectionWords other path ++ rest) = fileAfter marker rest := by
  have hother : other.text ≠ marker.text := fun h => hne (Marker.text_injective h).symm
  cases path with
  | none => rfl
  | some name =>
    have hname : name ≠ marker.text := (hpath name rfl).not_marker marker
    simp [redirectionWords, fileAfter, hother, hname]

theorem fileAfter_background {marker : Marker} (hne : marker ≠ .background) (background : Bool) :
    fileAfter marker (if background then [Marker.background.text] else []) = none := by
  have hother : Marker.background.text ≠ marker.text :=
    fun h => hne (Marker.text_injective h).symm
  cases background <;> simp [fileAfter, hother]

theorem leadingArguments_words {command : Command} (h : command.WellFormed) :
    leadingArguments command.words = command.arguments := by
  have hplain : ∀ argument ∈ command.arguments, Marker.isPlain argument = true :=
    fun argument hmem => isPlain_of_isName (h.arguments argument hmem)
  -- what follows the arguments begins with a marker or is empty
  have htrailing : command.trailingWords.takeWhile Marker.isPlain = [] := by
    unfold trailingWords
    cases command.input <;> cases command.output <;> cases command.background <;>
      simp [redirectionWords]
  unfold leadingArguments words
  rw [List.takeWhile_append_of_pos hplain, htrailing, List.append_nil,
    List.take_of_length_le h.length_arguments]

theorem contains_background_words {command : Command} (h : command.WellFormed) :
    command.words.contains Marker.background.text = command.background := by
  have harguments : Marker.background.text ∉ command.arguments :=
    fun hmem => (h.arguments _ hmem).not_marker .background rfl
  have hredirection (marker : Marker) (hne : marker ≠ .background) {path : Option String}
      (hpath : ∀ name ∈ path, IsName name) :
      Marker.background.text ∉ redirectionWords marker path := by
    have hmarker : Marker.background.text ≠ marker.text :=
      fun heq => hne (Marker.text_injective heq).symm
    cases path with
    | none => simp [redirectionWords]
    | some name =>
      have hname := (hpath name rfl).not_marker .background
      simp [redirectionWords, hmarker, hname.symm]
  have hinput := hredirection .input (by decide) h.input
  have houtput := hredirection .output (by decide) h.output
  cases hbackground : command.background <;>
    simp [words, trailingWords, harguments, hinput, houtput, hbackground]

theorem ofWords_words {command : Command} (h : command.WellFormed) :
    ofWords command.words = command := by
  have hinput : fileAfter .input command.words = command.input := by
    unfold words trailingWords
    rw [fileAfter_append h.arguments, List.append_assoc, fileAfter_own _ h.input,
      fileAfter_other (by decide) h.output, fileAfter_background (by decide), Option.or_none]
  have houtput : fileAfter .output command.words = command.output := by
    unfold words trailingWords
    rw [fileAfter_append h.arguments, List.append_assoc, fileAfter_other (by decide) h.input,
      fileAfter_own _ h.output, fileAfter_background (by decide), Option.or_none]
  rw [ofWords_eq, leadingArguments_words h, hinput, houtput, contains_background_words h]

/-! ## What reading answers -/

/-- A file name that the reader finds is a word of the line. -/
theorem isName_of_mem_fileAfter {words : List String} (hwords : ∀ word ∈ words, Text.IsWord word)
    {marker : Marker} {name : String} (h : name ∈ fileAfter marker words) : IsName name := by
  induction words with
  | nil => simp [fileAfter] at h
  | cons word rest ih =>
    unfold fileAfter at h
    split at h
    · -- the marker stands here, so the name is the next word
      rcases rest with _ | ⟨next, rest⟩
      · simp at h
      · have hplain : Marker.isPlain next = true ∧ next = name := by simpa using h
        obtain ⟨hplain, rfl⟩ := hplain
        exact ⟨hwords next (by simp), Marker.isPlain_iff.1 hplain⟩
    · exact ih (fun other hother => hwords other (List.mem_cons_of_mem _ hother)) h

theorem wellFormed_ofWords {words : List String} (hwords : ∀ word ∈ words, Text.IsWord word) :
    (ofWords words).WellFormed := by
  rw [ofWords_eq]
  constructor
  · simp [leadingArguments]
  · intro argument hargument
    have hmem := List.mem_of_mem_take hargument
    have hplain := List.mem_takeWhile_imp hmem
    exact ⟨hwords argument ((List.takeWhile_prefix _).subset hmem), Marker.isPlain_iff.1 hplain⟩
  · intro name hname
    exact isName_of_mem_fileAfter hwords hname
  · intro name hname
    exact isName_of_mem_fileAfter hwords hname

theorem wellFormed_read (line : String) : (read line).WellFormed :=
  wellFormed_ofWords fun _ hword => Text.isWord_of_mem_words hword

theorem read_render {command : Command} (h : command.WellFormed) :
    read command.render = command := by
  unfold read
  rw [words_render h, ofWords_words h]

/-- **Reading and writing are inverse on exactly the well-formed commands**: reading answers only
such commands, a command survives being written and read back exactly if it is one, a line that has
been read and written is read the same again, and every well-formed command is read from some
line. -/
theorem wellFormed_iff_read_render :
    (∀ line, (read line).WellFormed) ∧
      (∀ command : Command, command.WellFormed ↔ read command.render = command) ∧
      (∀ line, read (read line).render = read line) ∧
      Set.range read = {command | command.WellFormed} := by
  refine ⟨wellFormed_read, ?_, fun line => read_render (wellFormed_read line), ?_⟩
  · intro command
    constructor
    · exact read_render
    · intro h
      rw [← h]
      exact wellFormed_read _
  · ext command
    constructor
    · rintro ⟨line, rfl⟩
      exact wellFormed_read line
    · intro h
      exact ⟨command.render, read_render h⟩

end Command

end JobShell
