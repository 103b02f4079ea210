import JobShell.Proofs.Child.Wording

/-!
# JobShell.Proofs.Child.Buffer — a notice keeps the beginning of what is pushed

The signal handler cannot stop when a notice is full. It goes on pushing, and what is pushed from
then on is lost. So whatever is pushed, and in whichever order, the notice is the beginning of it.

* `Entry` is one thing to be pushed, and `Entry.written` what the notice should show of it. Numbers
  are written by the library's formatter, not by the digit loop of the notice.
* `Holds.add` is the step and `Holds.addAll` the run: no push fails, and the notice holds what was
  written as far as there is room.
* `Holds.addAll_of_full`: nothing changes any more when there is no room left.
* `exists_position`: the digits of a number stay inside of their own buffer.
* `Notice.keeps_beginning` puts this together, for every list of entries.
-/

namespace JobShell

open Text Decimal

namespace Notice

/-! ## Entries -/

/-- What can be pushed. -/
inductive Entry where
  | raw (bytes : Bytes)
  | number (value : Int64)
deriving DecidableEq, Repr

/-- What a notice with enough room shows of an entry. -/
def Entry.written : Entry → Bytes
  | .raw bytes => bytes
  | .number value => utf8 (toString value.toInt)

/-- What a notice with enough room shows of some entries, one after the other. -/
def written (entries : List Entry) : Bytes :=
  entries.flatMap Entry.written

/-- Pushes an entry. -/
def add (notice : Notice) : Entry → Option Notice
  | .raw bytes => notice.push bytes
  | .number value => notice.pushInt value

/-- Pushes some entries; nothing if an index falls outside of a buffer on the way. -/
def addAll (notice : Notice) (entries : List Entry) : Option Notice :=
  entries.foldlM add notice

variable {notice : Notice} {content : Bytes}

theorem addAll_cons {entry : Entry} {entries : List Entry} {next : Notice}
    (h : notice.add entry = some next) :
    notice.addAll (entry :: entries) = next.addAll entries := by
  rw [addAll, List.foldlM_cons, h]
  rfl

theorem addAll_append {front later : List Entry} {middle : Notice}
    (h : notice.addAll front = some middle) :
    notice.addAll (front ++ later) = middle.addAll later := by
  unfold addAll at h ⊢
  rw [List.foldlM_append, h]
  rfl

/-! ## One push and many -/

/-- A number is pushed as the bytes that the library's formatter writes. -/
theorem add_eq_push (notice : Notice) (entry : Entry) :
    notice.add entry = notice.push entry.written := by
  cases entry with
  | raw bytes => rfl
  | number value => rw [add, pushInt_eq_push, text_eq_toString, Entry.written]

/-- The step lemma: an entry is added as it is written. -/
theorem Holds.add (h : notice.Holds content) (entry : Entry) :
    ∃ next, notice.add entry = some next ∧ next.Holds (content ++ entry.written) := by
  rw [add_eq_push]
  exact h.push entry.written

/-- The run lemma: whatever is pushed, the notice holds what was written, as far as there is room
for it. -/
theorem Holds.addAll (h : notice.Holds content) (entries : List Entry) :
    ∃ after, notice.addAll entries = some after ∧ after.Holds (content ++ written entries) := by
  induction entries generalizing notice content with
  | nil =>
    refine ⟨notice, rfl, ?_⟩
    rwa [written, List.flatMap_nil, List.append_nil]
  | cons entry entries ih =>
    rcases h.add entry with ⟨next, hnext, hholds⟩
    rcases ih hholds with ⟨after, hafter, hrest⟩
    refine ⟨after, ?_, ?_⟩
    · rw [addAll_cons hnext, hafter]
    · rwa [written, List.flatMap_cons, ← List.append_assoc]

/-! ## A full notice -/

/-- Bytes for which there is no room leave the cells alone as well. -/
theorem push_of_full (hsize : notice.cells.length = noticeCapacity)
    (hfull : notice.length = noticeCapacity) (bytes : Bytes) : notice.push bytes = some notice := by
  have hcount : min bytes.length (noticeCapacity - notice.length) = 0 := by omega
  have hover : overwrite notice.cells notice.length [] = some notice.cells := by
    have hfits : notice.length + ([] : Bytes).length ≤ notice.cells.length := by
      rw [hsize, hfull]
      exact Nat.le_refl _
    rw [overwrite, if_pos hfits, List.length_nil, Nat.add_zero, List.append_nil,
      List.take_append_drop]
  unfold push
  simp only [hcount, List.take_zero, hover]
  rfl

theorem Holds.addAll_of_full (h : notice.Holds content) (hfull : notice.length = noticeCapacity)
    (entries : List Entry) : notice.addAll entries = some notice := by
  induction entries with
  | nil => rfl
  | cons entry entries ih =>
    have hadd : notice.add entry = some notice := by
      rw [add_eq_push, push_of_full h.size hfull]
    rw [addAll_cons hadd, ih]

/-! ## The digits of a number -/

/-- The digits of a number end at the end of their buffer, and begin behind at least one byte, which
is there for the sign. -/
theorem exists_position (value : Int64) :
    ∃ cells position, pushDigits (List.replicate digitCapacity 0) digitCapacity
        value.toInt.natAbs = some (cells, position) ∧
      cells.length = digitCapacity ∧ 0 < position ∧ position < digitCapacity ∧
      cells.drop position = utf8 (toString value.toInt.natAbs) := by
  rcases exists_pushDigits value with ⟨before, hcapacity, hdigits⟩
  have hpos := length_encoded_pos value.toInt.natAbs
  have hfiller : (List.replicate (before + 1) (0 : UInt8)).length = before + 1 :=
    List.length_replicate
  refine ⟨_, before + 1, hdigits, ?_, ?_, ?_, ?_⟩
  · rw [List.length_append, hfiller, hcapacity]
  · exact Nat.succ_pos before
  · omega
  · rw [List.drop_left' hfiller, encoded_eq_toString]

/-! ## Any notice -/

theorem length_bytes (h : notice.Holds content) : notice.bytes.length = notice.length := by
  rw [h.bytes, List.length_take, h.length, Nat.min_comm]

/-- What a notice is after some entries have been pushed. -/
structure Shows (entries : List Entry) (notice : Notice) : Prop where
  /-- It shows the first bytes of what was written. -/
  beginning : notice.bytes = (written entries).take noticeCapacity
  /-- The bytes that it shows are those up to its length, -/
  length : notice.bytes.length = notice.length
  /-- and the length is never beyond the end of its cells, which keep their number. -/
  within : notice.length ≤ noticeCapacity ∧ notice.cells.length = noticeCapacity
  /-- When it is full, nothing changes any more, whatever is pushed. -/
  full : notice.length = noticeCapacity → ∀ later, notice.addAll later = some notice

theorem Holds.shows {entries : List Entry} (h : notice.Holds (written entries)) :
    notice.Shows entries where
  beginning := h.bytes
  length := length_bytes h
  within := by
    refine ⟨?_, h.size⟩
    rw [h.length]
    exact Nat.min_le_right _ _
  full := h.addAll_of_full

/-- **A notice keeps the beginning of everything that is pushed.** Any bytes and any numbers of 64
bits can be pushed, any number of them and in any order. After each of them there is a notice, so no
index was outside of a buffer; it shows the first 96 bytes of what was pushed, numbers in their
shortest form. The digits of a number end inside of their buffer, behind a byte for the sign. -/
theorem keeps_beginning (pushed later : List Entry) :
    (∃ notice, empty.addAll pushed = some notice ∧ notice.Shows pushed ∧
      empty.addAll (pushed ++ later) = notice.addAll later) ∧
    ∀ value : Int64,
      IsShortest (toString value.toInt).toList value.toInt ∧
      ∃ cells position, pushDigits (List.replicate digitCapacity 0) digitCapacity
          value.toInt.natAbs = some (cells, position) ∧
        cells.length = digitCapacity ∧ 0 < position ∧ position < digitCapacity ∧
        cells.drop position = utf8 (toString value.toInt.natAbs) := by
  constructor
  · rcases holds_empty.addAll pushed with ⟨notice, hnotice, hholds⟩
    rw [List.nil_append] at hholds
    exact ⟨notice, hnotice, hholds.shows, addAll_append hnotice⟩
  · intro value
    exact ⟨isShortest_toString value.toInt, exists_position value⟩

/-- Only the sign of the lowest number finds room, and what is pushed after it is lost. -/
example :
    (empty.addAll [.raw (List.replicate 95 35), .number Int64.minValue, .raw [35]]).map bytes =
      some (List.replicate 95 35 ++ [45]) := by
  decide +kernel

end Notice

end JobShell
