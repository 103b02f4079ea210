import JobShell.Proofs.Text.Words

/-!
# JobShell.Proofs.Text.Runs — the words of a text are its maximal runs

`Runs` says without any cutting which runs of characters a text consists of: each run has blanks or
the start of the text before it and blanks or the end of the text behind it, and between the runs
there is nothing else. A text has exactly one sequence of such runs, and that is what `words`
answers (`runs_iff`).
-/

namespace JobShell.Text

/-- The maximal runs of characters that are not blank, in order. A run ends where the text ends or
a blank follows, so the gap before the next one is not empty. -/
inductive Runs : List Char → List (List Char) → Prop where
  | blank {gap : List Char} (hgap : ∀ c ∈ gap, isBlank c = true) : Runs gap []
  | run {gap word rest : List Char} {runs : List (List Char)}
      (hgap : ∀ c ∈ gap, isBlank c = true) (hne : word ≠ [])
      (hword : ∀ c ∈ word, isBlank c = false) (hend : ∀ c ∈ rest.head?, isBlank c = true)
      (hrest : Runs rest runs) : Runs (gap ++ word ++ rest) (word :: runs)

/-! ## From the runs to the words -/

/-- Blanks in front of a text change none of its words. -/
theorem split_blank_append {gap : List Char} (hgap : ∀ c ∈ gap, isBlank c = true)
    (text : List Char) : (split (gap ++ text)).words = (split text).words := by
  induction gap with
  | nil => rfl
  | cons c gap ih =>
    have hc : isBlank c = true := hgap c List.mem_cons_self
    have hcut := split_append_blank hc [] (gap ++ text)
    rw [List.nil_append] at hcut
    rw [List.cons_append, hcut, ih fun d hd => hgap d (List.mem_cons_of_mem _ hd)]
    rfl

/-- A run at the start of a text is its first word. -/
theorem split_run_append {word rest : List Char} (hne : word ≠ [])
    (hword : ∀ c ∈ word, isBlank c = false) (hend : ∀ c ∈ rest.head?, isBlank c = true) :
    (split (word ++ rest)).words = word :: (split rest).words := by
  have hown : (split word).words = [word] := by
    rw [split_of_no_blank hword]
    simp [Split.words, hne]
  cases rest with
  | nil =>
    rw [List.append_nil, hown]
    rfl
  | cons c rest =>
    have hc : isBlank c = true := hend c (by simp)
    have hgap : ∀ d ∈ [c], isBlank d = true := by simpa using hc
    have hbehind : (split (c :: rest)).words = (split rest).words := split_blank_append hgap rest
    rw [split_append_blank hc, hown, hbehind]
    rfl

theorem Runs.words_eq {text : List Char} {runs : List (List Char)} (h : Runs text runs) :
    (split text).words = runs := by
  induction h with
  | @blank gap hgap =>
    have hall := split_blank_append hgap []
    rw [List.append_nil] at hall
    rw [hall]
    rfl
  | run hgap hne hword hend _ ih =>
    rw [List.append_assoc, split_blank_append hgap, split_run_append hne hword hend, ih]

/-! ## From the words to the runs -/

/-- A blank in front of a text changes none of its runs. -/
theorem Runs.cons {c : Char} (hc : isBlank c = true) {text : List Char} {runs : List (List Char)}
    (h : Runs text runs) : Runs (c :: text) runs := by
  cases h with
  | blank hgap => exact .blank (by simpa [hc] using hgap)
  | @run gap _ _ _ hgap hne hword hend hrest =>
    have hlonger : ∀ d ∈ c :: gap, isBlank d = true := by simpa [hc] using hgap
    exact .run hlonger hne hword hend hrest

/-- An opening word, if there is one, is the first run of its text. -/
theorem Split.runs_words {cut : Split} {rest : List Char} (hclean : cut.Clean)
    (hend : ∀ c ∈ rest.head?, isBlank c = true) (hruns : Runs rest cut.finished) :
    Runs (cut.opening ++ rest) cut.words := by
  obtain ⟨opening, finished⟩ := cut
  cases opening with
  | nil => exact hruns
  | cons first opening =>
    have hgap : ∀ d ∈ ([] : List Char), isBlank d = true := by simp
    exact .run hgap (List.cons_ne_nil first opening) hclean.1 hend hruns

/-- A text is its opening word and a rest that does not go on with it, and what is finished behind
the opening are the runs of the rest. -/
theorem split_runs (text : List Char) :
    ∃ rest, text = (split text).opening ++ rest ∧ (∀ c ∈ rest.head?, isBlank c = true) ∧
      Runs rest (split text).finished := by
  induction text with
  | nil => exact ⟨[], rfl, by simp, .blank (by simp)⟩
  | cons c text ih =>
    obtain ⟨rest, htext, hend, hruns⟩ := ih
    have hsplit : split (c :: text) = Split.cons c (split text) := rfl
    rw [hsplit]
    cases hc : isBlank c with
    | false =>
      -- the opening word grows
      simp only [Split.cons, hc, Bool.false_eq_true, if_false]
      exact ⟨rest, by rw [List.cons_append, ← htext], hend, hruns⟩
    | true =>
      -- the opening word is finished, if there was one
      simp only [Split.cons, hc, if_true]
      have hwords := Split.runs_words (split_clean text) hend hruns
      rw [← htext] at hwords
      exact ⟨c :: text, rfl, by simpa using hc, hwords.cons hc⟩

theorem runs_words (text : List Char) : Runs text (split text).words := by
  obtain ⟨rest, htext, hend, hruns⟩ := split_runs text
  have hwords := Split.runs_words (split_clean text) hend hruns
  rwa [← htext] at hwords

/-- The words of a text are the one sequence of its maximal runs. -/
theorem runs_iff {text : String} {runs : List (List Char)} :
    Runs text.toList runs ↔ runs = (words text).map String.toList := by
  have hchars : (words text).map String.toList = (split text.toList).words := by
    simp [words, Function.comp_def]
  rw [hchars]
  constructor
  · intro h
    exact h.words_eq.symm
  · rintro rfl
    exact runs_words text.toList

/-- The characters of a word are characters of the text. -/
theorem Runs.mem_text {text : List Char} {runs : List (List Char)} (h : Runs text runs)
    {word : List Char} (hword : word ∈ runs) {c : Char} (hc : c ∈ word) : c ∈ text := by
  induction h with
  | blank => cases hword
  | run _ _ _ _ _ ih =>
    rcases List.mem_cons.1 hword with rfl | hlater
    · simp [hc]
    · simp [ih hlater]

theorem mem_toList_of_mem_words {text word : String} (hword : word ∈ words text) {c : Char}
    (hc : c ∈ word.toList) : c ∈ text.toList :=
  (runs_iff.2 rfl).mem_text (List.mem_map_of_mem hword) hc

end JobShell.Text
