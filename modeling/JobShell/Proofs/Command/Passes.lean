import Mathlib.Data.List.TakeWhile
import JobShell.Proofs.Command.Reading
import JobShell.Proofs.Text.Runs

/-!
# JobShell.Proofs.Command.Passes — every part of a command, looked up on its own

The reader goes over the words of a line once. Here are two other accounts of what it answers.

* `Command.Reads` says what each part of a command has to be, by where the markers stand among the
  words. Nothing but the three markers is looked at, and only whole words.
* `Command.readInPasses` looks the parts up one after the other: the arguments in a loop that a
  marker or the largest number of arguments ends, each redirection in a search of its own, and the
  background marker in another. Its loop asks about a redirection marker only where the line has
  its character anywhere, which never matters: a word has no characters but those of its line.

Both agree with the reader on every line (`reads_iff`, `readInPasses_eq`).
-/

namespace JobShell

/-! ## What each part has to be -/

/-- A name stands right behind the first occurrence of a marker, and is no marker itself. -/
def Marker.Behind (marker : Marker) (words : List String) (name : String) : Prop :=
  ∃ before after, words = before ++ marker.text :: name :: after ∧ marker.text ∉ before ∧
    ∀ other : Marker, name ≠ other.text

theorem leadingFile_eq_some_iff {words : List String} {name : String} :
    leadingFile words = some name ↔
      ∃ after, words = name :: after ∧ ∀ marker : Marker, name ≠ marker.text := by
  cases words with
  | nil => simp
  | cons word rest =>
    rw [leadingFile_cons]
    constructor
    · intro h
      obtain ⟨hplain, rfl⟩ : Marker.isPlain word = true ∧ word = name := by simpa using h
      exact ⟨rest, rfl, Marker.isPlain_iff.1 hplain⟩
    · rintro ⟨after, hwords, hplain⟩
      obtain ⟨rfl, rfl⟩ := List.cons.inj hwords
      simp [Marker.isPlain_iff.2 hplain]

theorem fileAfter_eq_some_iff {marker : Marker} {words : List String} {name : String} :
    fileAfter marker words = some name ↔ marker.Behind words name := by
  induction words with
  | nil => simp [fileAfter, Marker.Behind]
  | cons word rest ih =>
    rw [fileAfter]
    by_cases hword : word = marker.text
    · -- the first occurrence is here
      rw [if_pos hword, leadingFile_eq_some_iff]
      constructor
      · rintro ⟨after, rfl, hplain⟩
        exact ⟨[], after, by rw [hword]; rfl, List.not_mem_nil, hplain⟩
      · rintro ⟨before, after, hwords, hfirst, hplain⟩
        cases before with
        | nil => exact ⟨after, (List.cons.inj hwords).2, hplain⟩
        | cons other before =>
          obtain ⟨rfl, -⟩ := List.cons.inj hwords
          exact absurd (hword ▸ List.mem_cons_self) hfirst
    · rw [if_neg hword, ih]
      constructor
      · rintro ⟨before, after, rfl, hfirst, hplain⟩
        exact ⟨word :: before, after, rfl, by simp [Ne.symm hword, hfirst], hplain⟩
      · rintro ⟨before, after, hwords, hfirst, hplain⟩
        cases before with
        | nil => exact absurd (List.cons.inj hwords).1 hword
        | cons other before =>
          exact ⟨before, after, (List.cons.inj hwords).2, fun h => hfirst (.tail _ h), hplain⟩

namespace Command

/-- What a command has to be for a sequence of words. -/
structure Reads (words : List String) (command : Command) : Prop where
  /-- The arguments are the words before the first marker, as many as there may be. -/
  arguments : ∃ leading rest, words = leading ++ rest ∧
    (∀ word ∈ leading, ∀ marker : Marker, word ≠ marker.text) ∧
    (∀ word ∈ rest.head?, ∃ marker : Marker, word = marker.text) ∧
    command.arguments = leading.take (maxArguments + 1)
  /-- The input is what the word behind the first input marker names, wherever it stands. -/
  input : ∀ name, command.input = some name ↔ Marker.input.Behind words name
  /-- The output is what the word behind the first output marker names, wherever it stands. -/
  output : ∀ name, command.output = some name ↔ Marker.output.Behind words name
  /-- The command goes to the background if the background marker stands anywhere. -/
  background : command.background = true ↔ Marker.background.text ∈ words

/-- The words before the first marker are the leading words that are none. -/
theorem takeWhile_isPlain {leading rest : List String}
    (hleading : ∀ word ∈ leading, ∀ marker : Marker, word ≠ marker.text)
    (hrest : ∀ word ∈ rest.head?, ∃ marker : Marker, word = marker.text) :
    (leading ++ rest).takeWhile Marker.isPlain = leading := by
  have hstops : rest.takeWhile Marker.isPlain = [] := by
    cases rest with
    | nil => rfl
    | cons word rest =>
      obtain ⟨marker, rfl⟩ := hrest word rfl
      simp
  have hplain : ∀ word ∈ leading, Marker.isPlain word = true :=
    fun word hmem => Marker.isPlain_iff.2 (hleading word hmem)
  rw [List.takeWhile_append_of_pos hplain, hstops, List.append_nil]

theorem reads_ofWords (words : List String) : (ofWords words).Reads words := by
  rw [ofWords_eq]
  constructor
  · refine ⟨words.takeWhile Marker.isPlain, words.dropWhile Marker.isPlain,
      List.takeWhile_append_dropWhile.symm, ?_, ?_, rfl⟩
    · intro word hmem
      exact Marker.isPlain_iff.1 (List.mem_takeWhile_imp hmem)
    · intro word hmem
      have hstop := List.head?_dropWhile_not Marker.isPlain words
      rw [hmem] at hstop
      rcases Marker.isPlain_or_eq_text word with hplain | hmarker
      · simp [hplain] at hstop
      · exact hmarker
  · exact fun name => fileAfter_eq_some_iff
  · exact fun name => fileAfter_eq_some_iff
  · exact List.contains_iff_mem

/-- The words leave no choice. -/
theorem Reads.unique {words : List String} {command other : Command} (h : command.Reads words)
    (hother : other.Reads words) : command = other := by
  obtain ⟨leading, rest, hwords, hleading, hrest, harguments⟩ := h.arguments
  obtain ⟨leading', rest', hwords', hleading', hrest', harguments'⟩ := hother.arguments
  have hsame : leading = leading' := by
    rw [← takeWhile_isPlain hleading hrest, ← takeWhile_isPlain hleading' hrest', ← hwords,
      ← hwords']
  have hinput : command.input = other.input :=
    Option.ext fun name => (h.input name).trans (hother.input name).symm
  have houtput : command.output = other.output :=
    Option.ext fun name => (h.output name).trans (hother.output name).symm
  have hbackground : command.background = other.background :=
    Bool.eq_iff_iff.2 (h.background.trans hother.background.symm)
  cases command
  cases other
  simp_all

/-- A command is what a line asks for exactly if it is what the line's words require. -/
theorem reads_iff {line : String} {command : Command} :
    command.Reads (Text.words line) ↔ command = read line := by
  constructor
  · intro h
    exact h.unique (reads_ofWords _)
  · rintro rfl
    exact reads_ofWords _

/-- On a line without markers all words are arguments. -/
theorem read_of_plain {line : String}
    (hplain : ∀ word ∈ Text.words line, ∀ marker : Marker, word ≠ marker.text) :
    read line = { arguments := (Text.words line).take (maxArguments + 1) } := by
  have hnowhere (marker : Marker) : marker.text ∉ Text.words line :=
    fun hmem => hplain _ hmem marker rfl
  have hfile (marker : Marker) (name : String) : ¬marker.Behind (Text.words line) name := by
    rintro ⟨before, after, hwords, -, -⟩
    exact hnowhere marker (hwords ▸ by simp)
  symm
  rw [← reads_iff]
  exact
    { arguments := ⟨Text.words line, [], by simp, hplain, by simp, rfl⟩
      input := fun name => by simp [hfile]
      output := fun name => by simp [hfile]
      background := by simp [hnowhere] }

end Command

/-! ## One pass for each part -/

/-- The character that a marker consists of. -/
def Marker.character : Marker → Char
  | .input => '<'
  | .output => '>'
  | .background => '&'

/-- Whether a line has the character of a marker, in whatever word. -/
def Marker.occursIn (marker : Marker) (line : String) : Bool :=
  line.toList.contains marker.character

namespace Command

/-- Whether a word of a line ends the arguments. A redirection marker is asked about only where its
character occurs. -/
def endsArguments (line word : String) : Bool :=
  (Marker.output.occursIn line && word == Marker.output.text) ||
    (Marker.input.occursIn line && word == Marker.input.text) ||
    word == Marker.background.text

/-- Takes words as arguments until one ends them or there are as many as there may be. -/
def collectArguments (ends : String → Bool) (arguments : List String) :
    List String → List String
  | [] => arguments
  | word :: rest =>
    if ends word then arguments
    else
      let arguments := arguments ++ [word]
      if arguments.length = maxArguments + 1 then arguments
      else collectArguments ends arguments rest

/-- The file named behind the first occurrence of a marker, looked up by its position. -/
def fileNamed (marker : Marker) (words : List String) : Option String :=
  (words.findIdx? (· == marker.text)).bind fun position =>
    words[position + 1]?.filter Marker.isPlain

/-- The command that a line asks for, with a pass over the words for each of its parts. -/
def readInPasses (line : String) : Command :=
  let words := Text.words line
  { arguments := collectArguments (endsArguments line) [] words
    input := fileNamed .input words
    output := fileNamed .output words
    background := words.contains Marker.background.text }

/-- Asking about characters of the line first decides nothing about its words. -/
theorem endsArguments_eq {line word : String} (hword : word ∈ Text.words line) :
    endsArguments line word = !Marker.isPlain word := by
  rcases Marker.isPlain_or_eq_text word with hplain | ⟨marker, rfl⟩
  · have hne := Marker.isPlain_iff.1 hplain
    simp [endsArguments, hplain, hne]
  · have hoccurs : marker.occursIn line = true := by
      have hmem : marker.character ∈ marker.text.toList := by cases marker <;> decide
      simpa [Marker.occursIn] using Text.mem_toList_of_mem_words hword hmem
    rw [Marker.isPlain_text, endsArguments]
    cases marker <;> simp [hoccurs]

theorem collectArguments_eq {ends : String → Bool} {words : List String}
    (hends : ∀ word ∈ words, ends word = !Marker.isPlain word) (arguments : List String)
    (hroom : arguments.length ≤ maxArguments) :
    collectArguments ends arguments words =
      (arguments ++ words.takeWhile Marker.isPlain).take (maxArguments + 1) := by
  induction words generalizing arguments with
  | nil => simp [collectArguments, List.take_of_length_le (Nat.le_succ_of_le hroom)]
  | cons word rest ih =>
    rw [collectArguments, hends word List.mem_cons_self]
    cases hword : Marker.isPlain word with
    | false => simp [hword, List.take_of_length_le (Nat.le_succ_of_le hroom)]
    | true =>
      have happend : arguments ++ (word :: rest).takeWhile Marker.isPlain =
          (arguments ++ [word]) ++ rest.takeWhile Marker.isPlain := by
        simp [hword]
      rw [happend]
      simp only [Bool.not_true, Bool.false_eq_true, if_false]
      split
      · -- the arguments are complete, and what follows is cut off
        next hfull => rw [← hfull, List.take_left]
      · next hfull =>
        have hlength : (arguments ++ [word]).length ≤ maxArguments := by
          have : (arguments ++ [word]).length = arguments.length + 1 := by simp
          omega
        exact ih (fun other hmem => hends other (List.mem_cons_of_mem _ hmem)) _ hlength

theorem fileNamed_eq (marker : Marker) (words : List String) :
    fileNamed marker words = fileAfter marker words := by
  induction words with
  | nil => rfl
  | cons word rest ih =>
    rw [fileAfter, fileNamed, List.findIdx?_cons]
    by_cases hword : word = marker.text
    · have hhead : rest[0]? = rest.head? := List.head?_eq_getElem?.symm
      simp [hword, leadingFile, hhead]
    · -- behind another word every position is one further on
      have hother : ¬(word == marker.text) = true := by simpa using hword
      rw [if_neg hother, if_neg hword, ← ih, fileNamed, Option.bind_map]
      rfl

theorem readInPasses_eq (line : String) : readInPasses line = read line := by
  have harguments : collectArguments (endsArguments line) [] (Text.words line) =
      ([] ++ (Text.words line).takeWhile Marker.isPlain).take (maxArguments + 1) :=
    collectArguments_eq (fun _ hword => endsArguments_eq hword) [] (Nat.zero_le _)
  rw [read, ofWords_eq, readInPasses, harguments, fileNamed_eq, fileNamed_eq, List.nil_append]
  rfl

/-! ## The reference reading -/

/-- **The reader answers what the words of the line require.** The words are the maximal runs of
characters that are not blank; the command that they require is the one that is read; looking up
each part in a pass of its own, with a look at the whole line before, changes nothing; and lines
with the same words are read alike. Where no word is a marker all words are arguments, whatever
characters they have. -/
theorem reads_maximal_runs (line : String) :
    ∃ words : List String,
      (∀ runs, Text.Runs line.toList runs ↔ runs = words.map String.toList) ∧
      (∀ command : Command, command.Reads words ↔ command = read line) ∧
      readInPasses line = read line ∧
      (∀ other : String, Text.Runs other.toList (words.map String.toList) →
        read other = read line ∧ readInPasses other = read line) ∧
      ((∀ word ∈ words, ∀ marker : Marker, word ≠ marker.text) →
        read line = { arguments := words.take (maxArguments + 1) }) := by
  refine ⟨Text.words line, fun _ => Text.runs_iff, fun _ => reads_iff, readInPasses_eq line, ?_, ?_⟩
  · intro other hruns
    have hwords : Text.words other = Text.words line := by
      have hchars := Text.runs_iff.1 hruns
      exact (List.map_injective_iff.2 (fun _ _ => String.toList_injective) hchars).symm
    have hread : read other = read line := by rw [read, hwords, read]
    exact ⟨hread, (readInPasses_eq other).trans hread⟩
  · intro hplain
    exact read_of_plain hplain

/-- The first output marker has a marker behind it, so the later one with a name does not count, and
a marker's character inside a word is nothing. Blanks in other places change nothing. -/
theorem reads_maximal_runs_of_sort :
    (∃ words : List String,
      (∀ runs, Text.Runs "sort a>b < in > & > out".toList runs ↔ runs = words.map String.toList) ∧
      Reads words { arguments := ["sort", "a>b"], input := some "in", background := true }) ∧
    read "\tsort  a>b < in > & > out\n" = read "sort a>b < in > & > out" := by
  obtain ⟨words, hruns, hreads, -, hsame, -⟩ := reads_maximal_runs "sort a>b < in > & > out"
  refine ⟨⟨words, hruns, (hreads _).2 (by decide +kernel)⟩, (hsame _ ?_).1⟩
  rw [← (hruns _).1 (Text.runs_iff.2 rfl), Text.runs_iff]
  decide +kernel

end Command

end JobShell
