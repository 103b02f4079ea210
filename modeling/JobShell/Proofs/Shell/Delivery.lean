import JobShell.Proofs.Text.Lines
import JobShell.Shell.Loop
import Mathlib.Data.List.TakeWhile
import Mathlib.Tactic.Conv

/-!
# JobShell.Proofs.Shell.Delivery — a source gives out its bytes line by line

A source may cut its bytes into pieces anywhere and be interrupted in between. As long as it does
not fail, reading takes one line of the bytes at a time, to the end (`delivers_lines`): where the
pieces end plays no part, and neither does whether the line before was a text.
-/

namespace JobShell

/-! ## The first newline of a piece -/

namespace Text

theorem splitLine?_eq_none {bytes : Bytes} (h : splitLine? bytes = none) : newline ∉ bytes := by
  intro hmem
  unfold splitLine? at h
  split at h
  · next hdrop =>
    have := List.dropWhile_eq_nil_iff.1 hdrop newline hmem
    simp at this
  · cases h

theorem splitLine?_eq_some {bytes line rest : Bytes} (h : splitLine? bytes = some (line, rest)) :
    ∃ front, newline ∉ front ∧ line = front ++ [newline] ∧ bytes = front ++ newline :: rest := by
  unfold splitLine? at h
  split at h
  · cases h
  · next stop behind hdrop =>
    obtain ⟨rfl, rfl⟩ := Prod.mk.inj (Option.some.inj h)
    have hstop : stop = newline := by
      have hhead := List.head?_dropWhile_not (· != newline) bytes
      rw [hdrop] at hhead
      simpa using hhead
    refine ⟨bytes.takeWhile (· != newline), ?_, rfl, ?_⟩
    · intro hmem
      have := List.mem_takeWhile_imp hmem
      simp at this
    · conv_lhs => rw [← List.takeWhile_append_dropWhile (p := (· != newline)) (l := bytes), hdrop]
      rw [hstop]

end Text

/-! ## Pieces of a source -/

namespace Piece

/-- The bytes that a source delivers. -/
def content (pieces : List Piece) : Bytes :=
  pieces.flatMap fun piece =>
    match piece with
    | .bytes chunk => chunk
    | _ => []

/-- The source delivers all its bytes without a failure; it may be interrupted. -/
def Unfailing (pieces : List Piece) : Prop :=
  ∀ reason, .failure reason ∉ pieces

theorem content_bytes_cons (bytes : Bytes) (pieces : List Piece) :
    content (.bytes bytes :: pieces) = bytes ++ content pieces := rfl

theorem Unfailing.tail {piece : Piece} {pieces : List Piece} (h : Unfailing (piece :: pieces)) :
    Unfailing pieces :=
  fun reason hmem => h reason (List.mem_cons_of_mem _ hmem)

/-- The bytes that are taken are the first line of what is left, or nothing if nothing is left. -/
structure Takes (pieces : List Piece) (line : Bytes) (later : List Piece) : Prop where
  unfailing : Unfailing later
  ended : line = [] → content pieces = [] ∧ content later = []
  line : line ≠ [] → Text.lines (content pieces) = line :: Text.lines (content later)

theorem takeLine_takes {pieces : List Piece} (h : Unfailing pieces) (known : Bytes) :
    ∃ line later, takeLine known pieces = (.ok (known ++ line), later) ∧
      Takes pieces line later := by
  induction pieces generalizing known with
  | nil => exact ⟨[], [], by simp [takeLine], h, fun _ => ⟨rfl, rfl⟩, by simp⟩
  | cons piece pieces ih =>
    cases piece with
    | failure reason => exact absurd List.mem_cons_self (h reason)
    | interrupted =>
      obtain ⟨line, later, htake, hlater, hended, hline⟩ := ih h.tail known
      exact ⟨line, later, htake, hlater, hended, hline⟩
    | bytes chunk =>
      rw [takeLine]
      cases hsplit : Text.splitLine? chunk with
      | some parts =>
        -- the line ends in this piece
        obtain ⟨front, hfront, hline, hchunk⟩ := Text.splitLine?_eq_some hsplit
        refine ⟨parts.1, .bytes parts.2 :: pieces, rfl, ?_, ?_, ?_⟩
        · intro reason hmem
          rcases List.mem_cons.1 hmem with heq | hlater
          · cases heq
          · exact h.tail reason hlater
        · intro hnil
          simp [hline] at hnil
        · intro _
          rw [content_bytes_cons, content_bytes_cons, hchunk, List.append_assoc,
            List.cons_append, Text.lines_append_newline_cons hfront, hline]
      | none =>
        -- the line goes on in the next piece
        have hchunk := Text.splitLine?_eq_none hsplit
        obtain ⟨line, later, htake, htakes⟩ := ih h.tail (known ++ chunk)
        refine ⟨chunk ++ line, later, by rw [← List.append_assoc]; exact htake,
          htakes.unfailing, ?_, ?_⟩
        · intro hnil
          obtain ⟨rfl, hline⟩ := List.append_eq_nil_iff.1 hnil
          exact htakes.ended hline
        · intro hne
          rw [content_bytes_cons]
          by_cases hline : line = []
          · obtain ⟨hcontent, hlater⟩ := htakes.ended hline
            rw [hline, List.append_nil] at hne ⊢
            rw [hcontent, hlater, List.append_nil, Text.lines_of_not_mem hne hchunk]
            rfl
          · exact Text.lines_append_of_not_mem hchunk (htakes.line hline)

theorem length_content_lt_bound (pieces : List Piece) : (content pieces).length < bound pieces := by
  have hfrom (total : Nat) : total + (content pieces).length ≤
      pieces.foldl
        (fun total piece =>
          match piece with
          | .bytes chunk => total + chunk.length + 1
          | _ => total + 1) total := by
    induction pieces generalizing total with
    | nil => exact Nat.le_refl _
    | cons piece pieces ih =>
      rw [List.foldl_cons]
      cases piece with
      | bytes chunk =>
        have hrest := ih (total + chunk.length + 1)
        rw [content_bytes_cons, List.length_append]
        exact Nat.le_trans (by omega) hrest
      | _ => exact Nat.le_trans (Nat.add_le_add_right (Nat.le_succ total) _) (ih (total + 1))
  rw [Nat.lt_iff_add_one_le, Nat.add_comm]
  exact hfrom 1

end Piece

/-! ## Delivered lines -/

/-- A reader delivers exactly these lines and then tells of the end, whatever the state is, which it
leaves alone. -/
def Delivers {Reader State : Type} (readLine : LineReader Reader State) (reader : Reader) :
    List Bytes → Prop
  | [] => ∀ state, ∃ later, readLine reader state = (.ok none, later, state)
  | line :: lines => line ≠ [] ∧ ∃ later,
    (∀ state, readLine reader state = (Text.line? line, later, state)) ∧
      Delivers readLine later lines

/-- The reader of a source that commands do not share. -/
def Piece.lineReader (State : Type) : LineReader (List Piece) State :=
  fun pieces state => ((readLine pieces).1, (readLine pieces).2, state)

theorem Piece.delivers_lines (State : Type) {pieces : List Piece} (h : Unfailing pieces) :
    Delivers (lineReader State) pieces (Text.lines (content pieces)) := by
  generalize hlines : Text.lines (content pieces) = lines
  induction lines generalizing pieces with
  | nil =>
    obtain ⟨line, later, htake, htakes⟩ := takeLine_takes h []
    have hnil : line = [] := by
      by_contra hne
      have hfirst := htakes.line hne
      rw [hlines] at hfirst
      cases hfirst
    intro state
    refine ⟨later, ?_⟩
    rw [lineReader, readLine, htake, hnil]
    rfl
  | cons first lines ih =>
    obtain ⟨line, later, htake, htakes⟩ := takeLine_takes h []
    have hne : line ≠ [] := by
      intro hnil
      rw [(htakes.ended hnil).1] at hlines
      cases hlines
    have hboth := htakes.line hne
    rw [hlines] at hboth
    obtain ⟨rfl, hrest⟩ := List.cons.inj hboth
    refine ⟨hne, later, ?_, ih htakes.unfailing hrest.symm⟩
    intro state
    rw [lineReader, readLine, htake]
    rfl

end JobShell
