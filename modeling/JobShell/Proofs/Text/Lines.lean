import JobShell.Text.Lines
import Mathlib.Data.List.Basic

/-!
# JobShell.Proofs.Text.Lines — the lines of bytes, without cutting

`Lines` says which lines bytes consist of: each ends with the first newline behind its start, and
only bytes without any newline are a line of another kind, the last. There is one way to cut bytes
so, and it is what `lines` answers (`lines_iff`).
-/

namespace JobShell.Text

/-- Bytes cut after each newline. What is left behind the last one is a line as well, if there is
anything left. -/
inductive Lines : Bytes → List Bytes → Prop where
  | none : Lines [] []
  | rest {last : Bytes} (hne : last ≠ []) (hlast : newline ∉ last) : Lines last [last]
  | line {front bytes : Bytes} {later : List Bytes} (hfront : newline ∉ front)
      (hlater : Lines bytes later) :
      Lines (front ++ newline :: bytes) ((front ++ [newline]) :: later)

/-! ## The first line -/

/-- Bytes without a newline in front belong to the first line. -/
theorem lines_append_of_not_mem {front bytes line : Bytes} {rest : List Bytes}
    (hfront : newline ∉ front) (h : lines bytes = line :: rest) :
    lines (front ++ bytes) = (front ++ line) :: rest := by
  induction front with
  | nil => exact h
  | cons byte front ih =>
    have hbyte : byte ≠ newline := fun heq => hfront (heq ▸ List.mem_cons_self)
    have hstep : lines (byte :: (front ++ bytes)) = consLine byte (lines (front ++ bytes)) := rfl
    rw [List.cons_append, hstep, ih fun hmem => hfront (List.mem_cons_of_mem _ hmem), consLine,
      if_neg hbyte]
    rfl

/-- A newline ends the first line. -/
theorem lines_append_newline_cons {front : Bytes} (hfront : newline ∉ front) (bytes : Bytes) :
    lines (front ++ newline :: bytes) = (front ++ [newline]) :: lines bytes :=
  lines_append_of_not_mem hfront rfl

/-- Bytes without a newline are one line, if there are any. -/
theorem lines_of_not_mem {bytes : Bytes} (hne : bytes ≠ []) (hbytes : newline ∉ bytes) :
    lines bytes = [bytes] := by
  rw [← List.dropLast_concat_getLast hne] at hbytes ⊢
  have hfront : newline ∉ bytes.dropLast := fun hmem => hbytes (List.mem_append_left _ hmem)
  have hlast : bytes.getLast hne ≠ newline := fun heq => hbytes (by simp [heq])
  refine lines_append_of_not_mem hfront ?_
  change consLine _ [] = _
  rw [consLine, if_neg hlast]

/-! ## All lines -/

theorem Lines.eq_lines {bytes : Bytes} {cut : List Bytes} (h : Lines bytes cut) :
    cut = lines bytes := by
  induction h with
  | none => rfl
  | rest hne hlast => rw [lines_of_not_mem hne hlast]
  | line hfront _ ih => rw [lines_append_newline_cons hfront, ih]

/-- A byte in front that is no newline belongs to the first line. -/
theorem Lines.cons {byte : UInt8} (hbyte : byte ≠ newline) {bytes : Bytes} {cut : List Bytes}
    (h : Lines bytes cut) : Lines (byte :: bytes) (consLine byte cut) := by
  unfold consLine
  rw [if_neg hbyte]
  cases h with
  | none => exact .rest (List.cons_ne_nil _ _) (by simpa using hbyte.symm)
  | rest _ hlast =>
    exact .rest (List.cons_ne_nil _ _) (List.not_mem_cons_of_ne_of_not_mem hbyte.symm hlast)
  | @line front _ _ hfront hlater =>
    have hlonger : newline ∉ byte :: front :=
      List.not_mem_cons_of_ne_of_not_mem hbyte.symm hfront
    exact .line hlonger hlater

theorem lines_lines (bytes : Bytes) : Lines bytes (lines bytes) := by
  induction bytes with
  | nil => exact .none
  | cons byte bytes ih =>
    have hstep : lines (byte :: bytes) = consLine byte (lines bytes) := rfl
    rw [hstep]
    by_cases hbyte : byte = newline
    · have hfront : newline ∉ ([] : Bytes) := List.not_mem_nil
      have hcons : consLine newline (lines bytes) = [newline] :: lines bytes := if_pos rfl
      rw [hbyte, hcons]
      exact .line hfront ih
    · exact ih.cons hbyte

/-- Bytes can be cut into lines in one way only. -/
theorem lines_iff {bytes : Bytes} {cut : List Bytes} : Lines bytes cut ↔ cut = lines bytes := by
  constructor
  · exact Lines.eq_lines
  · rintro rfl
    exact lines_lines bytes

theorem length_lines_le (bytes : Bytes) : (lines bytes).length ≤ bytes.length := by
  induction bytes with
  | nil => exact Nat.le_refl 0
  | cons byte bytes ih =>
    have hstep : lines (byte :: bytes) = consLine byte (lines bytes) := rfl
    have hcons : (consLine byte (lines bytes)).length ≤ (lines bytes).length + 1 := by
      unfold consLine
      split
      · simp
      · split <;> simp_all
    rw [hstep, List.length_cons]
    omega

/-- A newline behind an unfinished last line finishes it and begins no other. -/
theorem Lines.append_newline {bytes : Bytes} {cut : List Bytes} (h : Lines bytes cut)
    (hne : bytes ≠ []) (hlast : bytes.getLast? ≠ some newline) :
    ∃ init last, cut = init ++ [last] ∧
      lines (bytes ++ [newline]) = init ++ [last ++ [newline]] := by
  induction h with
  | none => exact absurd rfl hne
  | @rest last _ hopen => exact ⟨[], last, rfl, lines_append_newline_cons hopen []⟩
  | @line front bytes later hfront _ ih =>
    have hbytes : bytes ≠ [] := by
      rintro rfl
      simp at hlast
    have hsame : (front ++ newline :: bytes).getLast? = bytes.getLast? := by
      rw [List.getLast?_append_of_ne_nil _ (List.cons_ne_nil _ _),
        List.getLast?_cons_of_ne_nil hbytes]
    obtain ⟨init, last, rfl, hnext⟩ := ih hbytes (hsame ▸ hlast)
    refine ⟨(front ++ [newline]) :: init, last, rfl, ?_⟩
    rw [List.append_assoc, List.cons_append, lines_append_newline_cons hfront, hnext]
    rfl

end JobShell.Text
