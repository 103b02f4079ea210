import JobShell.Child.Status
import JobShell.Proofs.Text.Decimal
import JobShell.Shell.Error

/-!
# JobShell.Proofs.Text.OneLine — texts that make one line

A report is shown as one line, so nothing that it is made of may break a line. Numbers do not, texts
between quotes do not because their line breaks are escaped, and the descriptions of failed calls
are words from a table.
-/

namespace JobShell

namespace Text

/-- A text without line breaks. -/
def OneLine (text : String) : Prop :=
  '\n' ∉ text.toList

instance (text : String) : Decidable (OneLine text) :=
  inferInstanceAs (Decidable ('\n' ∉ text.toList))

theorem oneLine_ofList {characters : List Char} (h : '\n' ∉ characters) :
    OneLine (String.ofList characters) := by
  rwa [OneLine, String.toList_ofList]

theorem OneLine.append {text other : String} (h : OneLine text) (hother : OneLine other) :
    OneLine (text ++ other) := by
  rw [OneLine, String.toList_append, List.mem_append]
  exact not_or.2 ⟨h, hother⟩

namespace Decimal

/-- A number is written without line breaks. -/
theorem oneLine_text (n : Int) : OneLine (text n) := by
  refine oneLine_ofList fun hbreak => ?_
  exact absurd (isNumeral_of_mem_chars hbreak) (by decide)

end Decimal

theorem hexDigit_ne_newline {n : Nat} (h : n < 16) : hexDigit n ≠ '\n' := by
  revert n
  decide

theorem newline_not_mem_hex (n : Nat) : '\n' ∉ hex n := by
  induction n using hex.induct with
  | case1 n hn =>
    rw [hex, if_pos hn, List.mem_singleton]
    exact (hexDigit_ne_newline hn).symm
  | case2 n hn ih =>
    rw [hex, if_neg hn, List.mem_append, List.mem_singleton, not_or]
    exact ⟨ih, (hexDigit_ne_newline (Nat.mod_lt n (by decide))).symm⟩

theorem escapeLetter?_ne_newline {c letter : Char} (h : escapeLetter? c = some letter) :
    letter ≠ '\n' := by
  unfold escapeLetter? at h
  split at h
  all_goals
    cases h
    try decide

/-- No character is shown as a line break, line breaks included. -/
theorem newline_not_mem_quoteChar (c : Char) : '\n' ∉ quoteChar c := by
  unfold quoteChar
  split
  · next letter hletter => simp [(escapeLetter?_ne_newline hletter).symm]
  · next hletter =>
    split
    · simp [newline_not_mem_hex]
    · rw [List.mem_singleton]
      rintro rfl
      cases hletter

/-- A text between quotes has no line breaks. -/
theorem oneLine_quote (text : String) : OneLine (quote text) := by
  refine oneLine_ofList ?_
  simp [newline_not_mem_quoteChar]

end Text

open Text

/-! ## Descriptions of failures -/

namespace Errno

/-- The descriptions in the table have no line breaks. -/
theorem oneLine_of_description {number : Int} {text : String}
    (h : description? number = some text) : OneLine text := by
  unfold description? at h
  split at h
  all_goals cases h
  all_goals exact oneLine_ofList (by decide)

theorem oneLine_message (errno : Errno) : OneLine errno.message := by
  have hunknown : OneLine "Unknown error " := by decide
  have hopening : OneLine " (os error " := by decide
  have hclosing : OneLine ")" := by decide
  have hnumber : OneLine (Decimal.text errno.number.toInt) := Decimal.oneLine_text _
  have hdescription : OneLine errno.description := by
    rw [description]
    cases hfound : description? errno.number.toInt with
    | none => exact hunknown.append hnumber
    | some text => exact oneLine_of_description hfound
  exact ((hdescription.append hopening).append hnumber).append hclosing

end Errno

theorem Termination.oneLine_text (termination : Termination) : OneLine termination.text := by
  have hexited : OneLine "exit value " := by decide
  have hkilled : OneLine "terminated by signal " := by decide
  cases termination with
  | exited code => exact hexited.append (Decimal.oneLine_text _)
  | killed signal => exact hkilled.append (Decimal.oneLine_text _)

end JobShell
