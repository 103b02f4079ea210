import Mathlib.Data.List.Basic
import JobShell.Command.Reader

/-!
# JobShell.Proofs.Command.Reading — what the reader makes of a sequence of words

The reader goes over the words once and carries three kinds of state: the arguments so far, what is
known of each redirection, and whether `&` has come. Each is followed on its own by an induction
over the words that are still to come, for an arbitrary state to start from.

`ofWords_eq` puts them together: the arguments are the words before the first marker, cut off at
the largest number of arguments, and a redirection is the word behind its first marker.
-/

namespace JobShell

/-! ## Markers -/

namespace Marker

theorem ofWord?_text (marker : Marker) : ofWord? marker.text = some marker := by
  cases marker <;> decide

theorem ofWord?_eq_some_iff {word : String} {marker : Marker} :
    ofWord? word = some marker ↔ word = marker.text := by
  constructor
  · intro h
    unfold ofWord? at h
    cases marker <;> grind [text]
  · rintro rfl
    exact ofWord?_text marker

/-- A word is no marker when it is none of the three texts. -/
theorem ofWord?_eq_none_iff {word : String} :
    ofWord? word = none ↔ ∀ marker : Marker, word ≠ marker.text := by
  constructor
  · rintro h marker rfl
    simp [ofWord?_text] at h
  · intro h
    cases hword : ofWord? word with
    | none => rfl
    | some marker => exact absurd (ofWord?_eq_some_iff.1 hword) (h marker)

theorem text_injective {marker other : Marker} (h : marker.text = other.text) :
    marker = other := by
  have := ofWord?_text marker
  rw [h, ofWord?_text] at this
  exact (Option.some.inj this).symm

/-- Whether a word is no marker. -/
def isPlain (word : String) : Bool :=
  (ofWord? word).isNone

theorem isPlain_iff {word : String} :
    isPlain word = true ↔ ∀ marker : Marker, word ≠ marker.text := by
  rw [isPlain, Option.isNone_iff_eq_none, ofWord?_eq_none_iff]

@[simp] theorem isPlain_text (marker : Marker) : isPlain marker.text = false := by
  simp [isPlain, ofWord?_text]

/-- A word is no marker, or it is one of the three. -/
theorem isPlain_or_eq_text (word : String) :
    isPlain word = true ∨ ∃ marker : Marker, word = marker.text := by
  cases hword : ofWord? word with
  | none => exact Or.inl (by simp [isPlain, hword])
  | some marker => exact Or.inr ⟨marker, ofWord?_eq_some_iff.1 hword⟩

end Marker

/-! ## Redirections -/

/-- The file that a sequence of words begins with, if it begins with a word that is no marker. -/
def leadingFile (words : List String) : Option String :=
  words.head?.filter Marker.isPlain

@[simp] theorem leadingFile_nil : leadingFile [] = none := rfl

@[simp] theorem leadingFile_cons (word : String) (rest : List String) :
    leadingFile (word :: rest) = if Marker.isPlain word then some word else none := by
  simp [leadingFile, Option.filter]

/-- The file named right behind the first occurrence of a marker. -/
def fileAfter (marker : Marker) : List String → Option String
  | [] => none
  | word :: rest => if word = marker.text then leadingFile rest else fileAfter marker rest

namespace Redirection

/-- What a redirection comes to if so many words are still to come. -/
def outcome (marker : Marker) (words : List String) : Redirection → Option String
  | .unseen => fileAfter marker words
  | .expected => leadingFile words
  | .settled path => path

theorem outcome_nil (marker : Marker) (redirection : Redirection) :
    redirection.outcome marker [] = redirection.path := by
  cases redirection <;> rfl

/-- A word that is no marker takes its part of the outcome. -/
theorem outcome_onWord {word : String} (hword : Marker.isPlain word = true) (own : Marker)
    (rest : List String) (redirection : Redirection) :
    (redirection.onWord word).outcome own rest = redirection.outcome own (word :: rest) := by
  have hne : word ≠ own.text := Marker.isPlain_iff.1 hword own
  cases redirection <;> simp [onWord, outcome, fileAfter, hne, hword]

/-- A marker takes its part of the outcome, its own redirection's or another's. -/
theorem outcome_onMarker (own marker : Marker) (rest : List String) (redirection : Redirection) :
    (redirection.onMarker (marker = own)).outcome own rest =
      redirection.outcome own (marker.text :: rest) := by
  by_cases hown : marker = own
  · subst hown
    cases redirection <;> simp [onMarker, outcome, fileAfter]
  · have hne : marker.text ≠ own.text := fun h => hown (Marker.text_injective h)
    cases redirection <;> simp [onMarker, outcome, fileAfter, hown, hne]

/-- What one word makes of the redirection of a marker. -/
def next (own : Marker) (redirection : Redirection) (word : String) : Redirection :=
  match Marker.ofWord? word with
  | some marker => redirection.onMarker (marker = own)
  | none => redirection.onWord word

/-- After all words the outcome is there. -/
theorem path_foldl (own : Marker) (words : List String) (redirection : Redirection) :
    (words.foldl (next own) redirection).path = redirection.outcome own words := by
  induction words generalizing redirection with
  | nil => exact (outcome_nil own redirection).symm
  | cons word rest ih =>
    rw [List.foldl_cons, ih]
    rcases Marker.isPlain_or_eq_text word with hword | ⟨marker, rfl⟩
    · have hnone : Marker.ofWord? word = none := by simpa [Marker.isPlain] using hword
      simp only [next, hnone]
      exact outcome_onWord hword own rest redirection
    · simp only [next, Marker.ofWord?_text]
      exact outcome_onMarker own marker rest redirection

end Redirection

/-! ## The words of a command -/

/-- The arguments among a sequence of words: those before the first marker, as many as there may
be. -/
def leadingArguments (words : List String) : List String :=
  (words.takeWhile Marker.isPlain).take (maxArguments + 1)

namespace Reading

/-- A word that is no marker may be an argument or a file. -/
theorem next_of_isPlain {word : String} (hword : Marker.isPlain word = true)
    (reading : Reading) :
    reading.next word =
      { reading with
        arguments :=
          if reading.isOpen && reading.arguments.length ≤ maxArguments then
            reading.arguments ++ [word]
          else reading.arguments
        input := reading.input.onWord word
        output := reading.output.onWord word } := by
  have hnone : Marker.ofWord? word = none := by simpa [Marker.isPlain] using hword
  simp [next, hnone]

/-- A marker closes the arguments. -/
theorem next_text (marker : Marker) (reading : Reading) :
    reading.next marker.text =
      { arguments := reading.arguments
        isOpen := false
        input := reading.input.onMarker (marker = .input)
        output := reading.output.onMarker (marker = .output)
        background := reading.background || marker = .background } := by
  simp [next, Marker.ofWord?_text]

theorem input_next (reading : Reading) (word : String) :
    (reading.next word).input = reading.input.next .input word := by
  unfold next Redirection.next
  cases Marker.ofWord? word <;> rfl

theorem output_next (reading : Reading) (word : String) :
    (reading.next word).output = reading.output.next .output word := by
  unfold next Redirection.next
  cases Marker.ofWord? word <;> rfl

/-- The fold over a reading carries a fold over each of its redirections. -/
theorem input_foldl (words : List String) (reading : Reading) :
    (words.foldl next reading).input = words.foldl (Redirection.next .input) reading.input :=
  (List.foldl_hom Reading.input fun reading word => (input_next reading word).symm).symm

theorem output_foldl (words : List String) (reading : Reading) :
    (words.foldl next reading).output = words.foldl (Redirection.next .output) reading.output :=
  (List.foldl_hom Reading.output fun reading word => (output_next reading word).symm).symm

theorem background_foldl (words : List String) (reading : Reading) :
    (words.foldl next reading).background =
      (reading.background || words.contains Marker.background.text) := by
  induction words generalizing reading with
  | nil => simp
  | cons word rest ih =>
    rw [List.foldl_cons, ih, List.contains_cons]
    rcases Marker.isPlain_or_eq_text word with hword | ⟨marker, rfl⟩
    · have hne : (Marker.background.text == word) = false := by
        simpa using (Marker.isPlain_iff.1 hword .background).symm
      simp [next_of_isPlain hword, hne]
    · rw [next_text]
      cases marker <;> simp [Marker.text]

/-- Behind the first marker no word is an argument any more. -/
theorem arguments_foldl_of_closed (words : List String) {reading : Reading}
    (hclosed : reading.isOpen = false) :
    (words.foldl next reading).arguments = reading.arguments := by
  induction words generalizing reading with
  | nil => rfl
  | cons word rest ih =>
    rw [List.foldl_cons]
    rcases Marker.isPlain_or_eq_text word with hword | ⟨marker, rfl⟩
    · rw [ih (by simp [next_of_isPlain hword, hclosed])]
      simp [next_of_isPlain hword, hclosed]
    · rw [ih (by simp [next_text])]
      simp [next_text]

theorem arguments_foldl (words : List String) (reading : Reading)
    (hopen : reading.isOpen = true) (hlength : reading.arguments.length ≤ maxArguments + 1) :
    (words.foldl next reading).arguments =
      (reading.arguments ++ words.takeWhile Marker.isPlain).take (maxArguments + 1) := by
  induction words generalizing reading with
  | nil => simp [List.take_of_length_le hlength]
  | cons word rest ih =>
    rw [List.foldl_cons]
    rcases Marker.isPlain_or_eq_text word with hword | ⟨marker, rfl⟩
    · rw [List.takeWhile_cons_of_pos hword]
      by_cases hroom : reading.arguments.length ≤ maxArguments
      · -- there is room for the word
        rw [ih _ (by simp [next_of_isPlain hword, hopen])
          (by simp [next_of_isPlain hword, hopen, hroom])]
        simp [next_of_isPlain hword, hopen, hroom]
      · -- the arguments are complete, and later words change nothing
        have hfull : reading.arguments.length = maxArguments + 1 := by omega
        rw [ih _ (by simp [next_of_isPlain hword, hopen])
          (by simp [next_of_isPlain hword, hopen, hroom, hlength])]
        simp only [next_of_isPlain hword, hroom, decide_false, Bool.and_false,
          Bool.false_eq_true, if_false]
        rw [List.take_append_of_le_length (by omega), List.take_append_of_le_length (by omega)]
    · rw [arguments_foldl_of_closed _ (by simp [next_text])]
      simp [next_text, List.take_of_length_le hlength]

end Reading

/-- The command that a sequence of words asks for, part by part. -/
theorem Command.ofWords_eq (words : List String) :
    ofWords words =
      { arguments := leadingArguments words
        input := fileAfter .input words
        output := fileAfter .output words
        background := words.contains Marker.background.text } := by
  have harguments := Reading.arguments_foldl words {} rfl (Nat.zero_le _)
  have hinput := Redirection.path_foldl .input words .unseen
  have houtput := Redirection.path_foldl .output words .unseen
  have hbackground := Reading.background_foldl words {}
  rw [List.nil_append] at harguments
  rw [Bool.false_or] at hbackground
  unfold ofWords Reading.command
  rw [harguments, Reading.input_foldl, hinput, Reading.output_foldl, houtput, hbackground]
  rfl

end JobShell
