import Mathlib.Data.List.Basic
import JobShell.Text.Blank

/-!
# JobShell.Proofs.Text.Words — what cutting a text into words does

* `words_append_blank`: a blank between two texts separates their words, whatever the texts are.
  The other equations follow from it.
* `words_of_isWord`: a text without blanks is one word.
* `isWord_of_mem_words`: nothing else ever comes out of `words`.
-/

namespace JobShell.Text

/-- Whether a text can be a word: it has characters, and none of them is blank. -/
def IsWord (text : String) : Prop :=
  text ≠ "" ∧ ∀ c ∈ text.toList, isBlank c = false

/-! ## The cut of a text with more behind it -/

namespace Split

/-- A cut whose opening word is complete keeps what stands behind it. -/
theorem words_append_finished (opening : List Char) (finished later : List (List Char)) :
    (Split.mk opening (finished ++ later)).words = (Split.mk opening finished).words ++ later := by
  unfold words
  split <;> simp

/-- Characters in front of a finished part do not touch it. -/
theorem foldr_cons_finished (text : List Char) (later : List (List Char)) :
    text.foldr cons ⟨[], later⟩ =
      ⟨(split text).opening, (split text).finished ++ later⟩ := by
  induction text with
  | nil => rfl
  | cons c rest ih =>
    have hsplit : split (c :: rest) = cons c (split rest) := rfl
    rw [List.foldr_cons, ih, hsplit]
    unfold cons
    split
    · rw [words_append_finished]
    · rfl

end Split

/-- A blank ends the word before it and begins no other. -/
theorem split_append_blank {c : Char} (hc : isBlank c = true) (before after : List Char) :
    (split (before ++ c :: after)).words = (split before).words ++ (split after).words := by
  have hblank : Split.cons c (split after) = ⟨[], (split after).words⟩ := by
    simp [Split.cons, hc]
  have hfold : split (before ++ c :: after) =
      before.foldr Split.cons (Split.cons c (split after)) := by
    simp [split]
  rw [hfold, hblank, Split.foldr_cons_finished, Split.words_append_finished]

/-- A text without blanks is all opening. -/
theorem split_of_no_blank {text : List Char} (h : ∀ c ∈ text, isBlank c = false) :
    split text = ⟨text, []⟩ := by
  induction text with
  | nil => rfl
  | cons c rest ih =>
    have hrest : split rest = ⟨rest, []⟩ := ih fun d hd => h d (List.mem_cons_of_mem _ hd)
    have hc : isBlank c = false := h c List.mem_cons_self
    have hsplit : split (c :: rest) = Split.cons c (split rest) := rfl
    rw [hsplit, hrest]
    simp [Split.cons, hc]

/-! ## Words of texts -/

@[simp] theorem words_empty : words "" = [] := rfl

/-- The words of two texts with a space between them. -/
theorem words_append_space (before after : String) :
    words (before ++ " " ++ after) = words before ++ words after := by
  have hspace : (before ++ " " ++ after).toList = before.toList ++ ' ' :: after.toList := by
    simp
  unfold words
  rw [hspace, split_append_blank (by decide), List.map_append]

/-- A word is its own only word. -/
theorem words_of_isWord {text : String} (h : IsWord text) : words text = [text] := by
  have hne : text.toList ≠ [] := by simpa using h.1
  unfold words
  rw [split_of_no_blank h.2]
  simp [Split.words, hne]

/-- Words with spaces between them are read back. -/
theorem words_intercalate {texts : List String} (h : ∀ text ∈ texts, IsWord text) :
    words (" ".intercalate texts) = texts := by
  induction texts with
  | nil => simp
  | cons first rest ih =>
    have hfirst := words_of_isWord (h first List.mem_cons_self)
    have hrest := ih fun text htext => h text (List.mem_cons_of_mem _ htext)
    rcases rest with _ | ⟨second, rest⟩
    · simpa using hfirst
    · rw [String.intercalate_cons_cons, words_append_space, hfirst, hrest]
      rfl

/-! ## Nothing but words -/

/-- Whether a cut has no blank in its pieces and no empty piece behind the opening one. -/
def Split.Clean (cut : Split) : Prop :=
  (∀ c ∈ cut.opening, isBlank c = false) ∧
    ∀ piece ∈ cut.finished, piece ≠ [] ∧ ∀ c ∈ piece, isBlank c = false

/-- The words of a clean cut are words; an empty opening is not one of them. -/
theorem Split.Clean.of_mem_words {cut : Split} (h : cut.Clean) {piece : List Char}
    (hpiece : piece ∈ cut.words) : piece ≠ [] ∧ ∀ c ∈ piece, isBlank c = false := by
  unfold Split.words at hpiece
  split at hpiece
  · exact h.2 piece hpiece
  · rcases List.mem_cons.1 hpiece with rfl | hmem
    · exact ⟨by simp_all, h.1⟩
    · exact h.2 piece hmem

theorem split_clean (text : List Char) : (split text).Clean := by
  induction text with
  | nil => exact ⟨by simp [split, Split.empty], by simp [split, Split.empty]⟩
  | cons c rest ih =>
    have hsplit : split (c :: rest) = Split.cons c (split rest) := rfl
    rw [hsplit]
    unfold Split.cons
    split
    · exact ⟨by simp, fun piece hpiece => ih.of_mem_words hpiece⟩
    · refine ⟨?_, ih.2⟩
      intro d hd
      rcases List.mem_cons.1 hd with rfl | hmem
      · simp_all
      · exact ih.1 d hmem

theorem isWord_of_mem_words {text word : String} (h : word ∈ words text) : IsWord word := by
  obtain ⟨piece, hpiece, rfl⟩ := List.mem_map.1 h
  obtain ⟨hne, hclean⟩ := (split_clean text.toList).of_mem_words hpiece
  exact ⟨by simpa using hne, by simpa using hclean⟩

end JobShell.Text
