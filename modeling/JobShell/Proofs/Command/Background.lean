import JobShell.Proofs.Command.Passes

/-!
# JobShell.Proofs.Command.Background — what stands behind a background marker

No word behind `&` is an argument. But the files of the redirections are looked for among all words,
so a redirection behind `&` counts, unless one of its kind stands before it already: `read_eq_iff`
says exactly when the words behind `&` can be left out.
-/

namespace JobShell

/-- A background marker ends no search for a file: what stands behind it is looked at if the
search's own marker has not come. -/
theorem fileAfter_append_background {marker : Marker} (hne : marker ≠ .background)
    (before after : List String) :
    fileAfter marker (before ++ Marker.background.text :: after) =
      if marker.text ∈ before then fileAfter marker (before ++ [Marker.background.text])
      else fileAfter marker after := by
  have hother : Marker.background.text ≠ marker.text :=
    fun h => hne (Marker.text_injective h).symm
  induction before with
  | nil => simp [fileAfter, hother]
  | cons word before ih =>
    rw [List.cons_append, List.cons_append, fileAfter, fileAfter]
    by_cases hword : word = marker.text
    · -- the word behind the marker is the same, or it is the background marker
      rw [if_pos hword, if_pos hword, if_pos (hword ▸ List.mem_cons_self)]
      cases before <;> simp
    · rw [if_neg hword, if_neg hword, ih]
      simp [Ne.symm hword]

/-- Before a background marker that ends the line there is a file only if its marker is there. -/
theorem fileAfter_background_last {marker : Marker} (hne : marker ≠ .background)
    {before : List String} (hbefore : marker.text ∉ before) :
    fileAfter marker (before ++ [Marker.background.text]) = none := by
  rw [fileAfter_append_background hne before [], if_neg hbefore]
  rfl

namespace Command

/-- The file of the redirection that a marker is for. -/
def file (command : Command) : Marker → Option String
  | .input => command.input
  | .output => command.output
  | .background => none

theorem file_read {marker : Marker} (hne : marker ≠ .background) (line : String) :
    (read line).file marker = fileAfter marker (Text.words line) := by
  rw [read, ofWords_eq]
  cases marker with
  | input => rfl
  | output => rfl
  | background => exact absurd rfl hne

/-- Commands with the same arguments that both go to the background differ in a file if at all. -/
theorem eq_iff_file {command other : Command} (harguments : command.arguments = other.arguments)
    (hbackground : command.background = other.background) :
    command = other ↔ ∀ marker : Marker, command.file marker = other.file marker := by
  constructor
  · rintro rfl marker
    rfl
  · intro hfile
    have hinput : command.input = other.input := hfile .input
    have houtput : command.output = other.output := hfile .output
    cases command
    cases other
    simp_all

section BehindBackground

variable {line short : String} {before after : List String}
  (hline : Text.words line = before ++ Marker.background.text :: after)
  (hshort : Text.words short = before ++ [Marker.background.text])

include hline hshort

theorem arguments_read_eq : (read line).arguments = (read short).arguments := by
  have htaken (after : List String) :
      (before ++ Marker.background.text :: after).takeWhile Marker.isPlain =
        before.takeWhile Marker.isPlain := by
    rw [List.takeWhile_append]
    split
    · -- all words before the marker are arguments
      next hall => simp [(List.takeWhile_prefix _).eq_of_length hall]
    · rfl
  rw [read, read, ofWords_eq, ofWords_eq, hline, hshort]
  simp only [leadingArguments]
  rw [htaken, htaken]

/-- A file that is named before the background marker stays; otherwise one named behind it
counts. -/
theorem file_read_eq {marker : Marker} (hne : marker ≠ .background) :
    (read line).file marker =
      if marker.text ∈ before then (read short).file marker else fileAfter marker after := by
  rw [file_read hne, file_read hne, hline, hshort, fileAfter_append_background hne]

/-- **What the words behind a background marker can do.** They are no arguments, and the command is
in the background with or without them. A redirection among them counts exactly if no redirection
of its kind stands before the marker; so the words behind the marker can be left out exactly if
every redirection among them comes too late or names no file. -/
theorem read_eq_iff :
    (read line).arguments = (read short).arguments ∧
      (read line).background = true ∧ (read short).background = true ∧
      (∀ marker : Marker, marker ≠ .background →
        (marker.text ∈ before → (read line).file marker = (read short).file marker) ∧
        (marker.text ∉ before → (read short).file marker = none ∧
          ∀ name, (read line).file marker = some name ↔ marker.Behind after name)) ∧
      (read line = read short ↔
        ∀ marker : Marker, marker ≠ .background → marker.text ∉ before →
          ∀ name, ¬marker.Behind after name) := by
  have harguments := arguments_read_eq hline hshort
  have hbackground : (read line).background = true := by
    rw [read, ofWords_eq, hline]
    simp
  have hbackground' : (read short).background = true := by
    rw [read, ofWords_eq, hshort]
    simp
  have hkept {marker : Marker} (hne : marker ≠ .background) (hmem : marker.text ∈ before) :
      (read line).file marker = (read short).file marker := by
    rw [file_read_eq hline hshort hne, if_pos hmem]
  have hnone {marker : Marker} (hne : marker ≠ .background) (hmem : marker.text ∉ before) :
      (read short).file marker = none := by
    rw [file_read hne, hshort, fileAfter_background_last hne hmem]
  have hnew {marker : Marker} (hne : marker ≠ .background) (hmem : marker.text ∉ before)
      (name : String) : (read line).file marker = some name ↔ marker.Behind after name := by
    rw [file_read_eq hline hshort hne, if_neg hmem, fileAfter_eq_some_iff]
  refine ⟨harguments, hbackground, hbackground', fun marker hne =>
    ⟨hkept hne, fun hmem => ⟨hnone hne hmem, hnew hne hmem⟩⟩, ?_⟩
  rw [eq_iff_file harguments (hbackground.trans hbackground'.symm)]
  constructor
  · intro hsame marker hne hmem name hbehind
    have hfile := (hnew hne hmem name).2 hbehind
    rw [hsame, hnone hne hmem] at hfile
    cases hfile
  · intro hbehind marker
    by_cases hne : marker = .background
    · rw [hne]
      rfl
    · by_cases hmem : marker.text ∈ before
      · exact hkept hne hmem
      · rw [hnone hne hmem, Option.eq_none_iff_forall_ne_some]
        intro name hfile
        exact hbehind marker hne hmem name ((hnew hne hmem name).1 hfile)

end BehindBackground

/-- The input is redirected before the background marker already, so another one behind it is
nothing; the output is not, so its redirection counts. -/
theorem read_eq_iff_of_sort :
    Text.words "sort < in & > out < late" =
        ["sort", "<", "in"] ++ Marker.background.text :: [">", "out", "<", "late"] ∧
      Text.words "sort < in &" = ["sort", "<", "in"] ++ [Marker.background.text] ∧
      (read "sort < in & > out < late").file .input = (read "sort < in &").file .input ∧
      (read "sort < in & > out < late").file .output = some "out" ∧
      read "sort < in & > out < late" ≠ read "sort < in &" := by
  have hline : Text.words "sort < in & > out < late" =
      ["sort", "<", "in"] ++ Marker.background.text :: [">", "out", "<", "late"] := by
    decide +kernel
  have hshort : Text.words "sort < in &" = ["sort", "<", "in"] ++ [Marker.background.text] := by
    decide +kernel
  obtain ⟨-, -, -, hfile, hsame⟩ := read_eq_iff hline hshort
  have hbehind : Marker.output.Behind [">", "out", "<", "late"] "out" :=
    ⟨[], ["<", "late"], rfl, by simp, by intro marker; cases marker <;> decide⟩
  refine ⟨hline, hshort, (hfile .input (by decide)).1 (by decide),
    (((hfile .output (by decide)).2 (by decide)).2 _).2 hbehind, ?_⟩
  intro heq
  exact hsame.1 heq .output (by decide) (by decide) "out" hbehind

/-- A redirection behind a background marker is not discarded. -/
theorem redirection_behind_background_counts :
    ∃ before after : List String, (∀ word ∈ before ++ after, Text.IsWord word) ∧
      (read (" ".intercalate (before ++ Marker.background.text :: after))).output = some "log" ∧
      (read (" ".intercalate (before ++ [Marker.background.text]))).output = none ∧
      read (" ".intercalate (before ++ Marker.background.text :: after)) ≠
        read (" ".intercalate (before ++ [Marker.background.text])) := by
  refine ⟨["sleep", "5"], [">", "log"], ?_, by decide +kernel, by decide +kernel,
    by decide +kernel⟩
  intro word hword
  have hwords : word ∈ Text.words "sleep 5 > log" := by
    revert word
    decide +kernel
  exact Text.isWord_of_mem_words hwords

end Command

end JobShell
