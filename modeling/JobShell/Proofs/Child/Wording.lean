import Mathlib.Tactic.Ring
import JobShell.Child.Notice
import JobShell.Proofs.Text.Decimal

/-!
# JobShell.Proofs.Child.Wording — a notice says how a job ended

A notice is laid out by index in two buffers of fixed size, the digits of a number from the last one
to the first. The buffers are compared with what is written into them.

* `pushDigits_append`: the digits of a number take the place of as many bytes, wherever these stand.
* `exists_pushDigits` and `layOut_eq`: any number of 64 bits fits into the buffer for digits, and
  its sign in front of them.
* `Notice.Holds`: a notice holds what was pushed, as far as there was room. `Holds.push` and
  `Holds.pushInt` are its step lemmas; no push ever fails.
* `Notice.of_eq_text`: a report has room, so the notice of a job is the report as a text.
* `Notice.build_agrees_with_formatter`: with 26 bytes to spare, the notice is what the library's
  formatter makes of the two numbers.
-/

namespace JobShell

namespace Text.Decimal

/-- The digits of a natural number as bytes. -/
def encoded (n : Nat) : Bytes :=
  utf8 (String.ofList (digits n))

/-- A digit is encoded in one byte. -/
theorem utf8EncodeChar_digit {d : Nat} (h : d < 10) :
    String.utf8EncodeChar (digit d) = [48 + d.toUInt8] := by
  revert d
  decide

theorem encoded_of_lt {n : Nat} (h : n < 10) : encoded n = [48 + n.toUInt8] := by
  simp [encoded, utf8, digits, h, utf8EncodeChar_digit h]

theorem encoded_of_le {n : Nat} (h : 10 ≤ n) :
    encoded n = encoded (n / 10) ++ [48 + (n % 10).toUInt8] := by
  have hlast : n % 10 < 10 := Nat.mod_lt _ (by decide)
  rw [encoded, digits, if_neg (by omega)]
  simp [encoded, utf8, utf8EncodeChar_digit hlast]

/-- A number below a power of ten has no more digits than its exponent. -/
theorem length_encoded_le {k n : Nat} (h : n < 10 ^ (k + 1)) : (encoded n).length ≤ k + 1 := by
  induction k generalizing n with
  | zero => simp [encoded_of_lt (n := n) (by omega)]
  | succ k ih =>
    by_cases hn : n < 10
    · simp [encoded_of_lt hn]
    · have hfront : (encoded (n / 10)).length ≤ k + 1 := by
        apply ih
        rw [pow_succ] at h
        omega
      rw [encoded_of_le (by omega), List.length_append, List.length_singleton]
      omega

theorem length_encoded_pos (n : Nat) : 0 < (encoded n).length := by
  by_cases hn : n < 10
  · simp [encoded_of_lt hn]
  · simp [encoded_of_le (n := n) (by omega)]

/-- The digits of a natural number are those that the library's formatter writes. -/
theorem encoded_eq_toString (n : Nat) : encoded n = utf8 (toString n) := by
  rw [encoded, digits_eq_toDigits, Nat.toString_eq_ofList_toDigits]

theorem utf8_text_of_nonneg {n : Int} (h : 0 ≤ n) : utf8 (text n) = encoded n.natAbs := by
  obtain ⟨n, rfl⟩ := Int.eq_ofNat_of_zero_le h
  rfl

theorem utf8_text_of_neg {n : Int} (h : n < 0) : utf8 (text n) = 45 :: encoded n.natAbs := by
  obtain ⟨n, rfl⟩ := Int.eq_negSucc_of_lt_zero h
  have hsign : String.utf8EncodeChar '-' = [45] := by decide
  simp [text, chars, utf8, encoded, hsign, Int.natAbs_negSucc]

/-- A number of 32 bits takes at most eleven bytes. -/
theorem length_utf8_text_le (n : Int32) : (utf8 (text n.toInt)).length ≤ 11 := by
  have hlow := n.le_toInt
  have hhigh := n.toInt_lt
  have hlength : (encoded n.toInt.natAbs).length ≤ 9 + 1 := length_encoded_le (by omega)
  rcases lt_or_ge n.toInt 0 with hneg | hnonneg
  · rw [utf8_text_of_neg hneg, List.length_cons]
    omega
  · rw [utf8_text_of_nonneg hnonneg]
    omega

end Text.Decimal

open Text Decimal

/-! ## Writing by index -/

/-- What is written takes the place of as many bytes. -/
theorem overwrite_append (front filler back : Bytes) {bytes : Bytes}
    (h : filler.length = bytes.length) :
    overwrite (front ++ filler ++ back) front.length bytes = some (front ++ bytes ++ back) := by
  have hfits : front.length + bytes.length ≤ (front ++ filler ++ back).length := by
    simp only [List.length_append]
    omega
  have hfront : (front ++ filler ++ back).take front.length = front := by
    rw [List.append_assoc, List.take_left]
  have hback : (front ++ filler ++ back).drop (front.length + bytes.length) = back := by
    rw [← h, ← List.length_append, List.drop_left]
  rw [overwrite, if_pos hfits, hfront, hback]

namespace Notice

/-- The last digit is written first, and the others in front of it. -/
theorem pushDigits_succ {cells after : Bytes} {before n : Nat}
    (h : overwrite cells before [48 + (n % 10).toUInt8] = some after) :
    pushDigits cells (before + 1) n =
      if n / 10 = 0 then some (after, before) else pushDigits after before (n / 10) := by
  rw [pushDigits, h]
  rfl

/-- The digits of a number, laid out from the right, take the place of as many bytes. -/
theorem pushDigits_append (front filler back : Bytes) {n : Nat}
    (h : filler.length = (encoded n).length) :
    pushDigits (front ++ filler ++ back) (front.length + filler.length) n =
      some (front ++ encoded n ++ back, front.length) := by
  induction n using digits.induct generalizing filler back with
  | case1 n hn =>
    have hdigit : n % 10 = n := Nat.mod_eq_of_lt hn
    have hover := overwrite_append front filler back h
    rw [encoded_of_lt hn, ← hdigit] at hover
    rw [h, encoded_of_lt hn, List.length_singleton, pushDigits_succ hover,
      if_pos (Nat.div_eq_of_lt hn), hdigit]
  | case2 n hn ih =>
    have hencoded : encoded n = encoded (n / 10) ++ [48 + (n % 10).toUInt8] :=
      encoded_of_le (by omega)
    rw [hencoded, List.length_append, List.length_singleton] at h
    -- the last byte takes the last digit, the bytes before it the others
    obtain ⟨others, last, rfl⟩ : ∃ others last, filler = others ++ [last] :=
      ⟨_, _, (List.dropLast_concat_getLast (List.ne_nil_of_length_eq_add_one h)).symm⟩
    simp only [List.length_append, List.length_singleton, Nat.add_right_cancel_iff] at h
    have hdigit : [last].length = [48 + (n % 10).toUInt8].length := rfl
    have hover := overwrite_append (front ++ others) [last] back hdigit
    have hrest := ih others ([48 + (n % 10).toUInt8] ++ back) h
    simp only [List.append_assoc, List.length_append] at hover hrest ⊢
    rw [List.length_singleton, ← Nat.add_assoc, pushDigits_succ hover, if_neg (by omega), hrest,
      hencoded, List.append_assoc]

/-- The digits of a number of 64 bits leave a byte in front of them. -/
theorem exists_pushDigits (value : Int64) :
    ∃ before, before + 1 + (encoded value.toInt.natAbs).length = digitCapacity ∧
      pushDigits (List.replicate digitCapacity 0) digitCapacity value.toInt.natAbs =
        some (List.replicate (before + 1) 0 ++ encoded value.toInt.natAbs, before + 1) := by
  have hlow := value.le_toInt
  have hhigh := value.toInt_lt
  have hlength : (encoded value.toInt.natAbs).length ≤ 18 + 1 := length_encoded_le (by omega)
  obtain ⟨before, hbefore⟩ :
      ∃ before, before + 1 + (encoded value.toInt.natAbs).length = digitCapacity := by
    refine ⟨19 - (encoded value.toInt.natAbs).length, ?_⟩
    rw [digitCapacity]
    omega
  have hdigits := pushDigits_append (List.replicate (before + 1) 0)
    (List.replicate (encoded value.toInt.natAbs).length 0) [] List.length_replicate
  rw [List.append_nil, List.replicate_append_replicate, List.length_replicate,
    List.length_replicate, hbefore, List.append_nil] at hdigits
  exact ⟨before, hbefore, hdigits⟩

/-- Any number of 64 bits is laid out in its shortest form. -/
theorem layOut_eq (value : Int64) : layOut value = some (utf8 (Decimal.text value.toInt)) := by
  obtain ⟨before, -, hdigits⟩ := exists_pushDigits value
  have hsign : value < 0 ↔ value.toInt < 0 := Int64.lt_iff_toInt_lt
  unfold layOut
  rw [hdigits]
  by_cases hneg : value < 0
  · -- there is a byte left in front of the digits, for the sign
    have hminus : ([0] : Bytes).length = ([45] : Bytes).length := rfl
    have hover :=
      overwrite_append (List.replicate before 0) [0] (encoded value.toInt.natAbs) hminus
    rw [List.length_replicate, ← List.replicate_succ'] at hover
    rw [utf8_text_of_neg (hsign.1 hneg)]
    simp [hneg, hover]
  · have hnonneg : 0 ≤ value.toInt := by
      rw [hsign] at hneg
      omega
    rw [utf8_text_of_nonneg hnonneg]
    simp [hneg]

/-! ## What a notice holds -/

/-- A notice holds what was pushed, as far as there is room for it. -/
structure Holds (notice : Notice) (content : Bytes) : Prop where
  size : notice.cells.length = noticeCapacity
  length : notice.length = min content.length noticeCapacity
  bytes : notice.bytes = content.take noticeCapacity

variable {notice : Notice} {content : Bytes}

theorem holds_empty : empty.Holds [] :=
  ⟨rfl, rfl, rfl⟩

/-- A push adds what there is room for. -/
theorem Holds.push (h : notice.Holds content) (bytes : Bytes) :
    ∃ after, notice.push bytes = some after ∧ after.Holds (content ++ bytes) := by
  obtain ⟨hsize, hlength, hbytes⟩ := h
  rw [Notice.bytes] at hbytes
  -- the cells are those in use, those that the push takes and those behind them
  let count := min bytes.length (noticeCapacity - notice.length)
  obtain ⟨front, filler, back, hcells, hfront, hfiller⟩ : ∃ front filler back,
      notice.cells = front ++ filler ++ back ∧ front.length = notice.length ∧
        filler.length = (bytes.take count).length := by
    refine ⟨notice.cells.take notice.length, (notice.cells.drop notice.length).take count,
      (notice.cells.drop notice.length).drop count, ?_, ?_, ?_⟩
    · rw [List.append_assoc, List.take_append_drop, List.take_append_drop]
    · rw [List.length_take]
      omega
    · simp only [List.length_take, List.length_drop]
      omega
  have hcount : (bytes.take count).length = count := by
    rw [List.length_take]
    omega
  have hover := overwrite_append front filler back hfiller
  rw [← hcells, hfront] at hover
  refine ⟨⟨front ++ bytes.take count ++ back, notice.length + count⟩, ?_, ?_, ?_, ?_⟩
  · rw [Notice.push]
    change (overwrite notice.cells notice.length (bytes.take count)).bind _ = _
    rw [hover]
    rfl
  · rw [← hsize, hcells]
    simp only [List.length_append, hfiller]
  · change notice.length + count = _
    rw [List.length_append]
    omega
  · have hused : front = content.take noticeCapacity := by
      rw [← hbytes, hcells, ← hfront, List.append_assoc, List.take_left]
    have hadded : bytes.take count = bytes.take (noticeCapacity - content.length) := by
      rw [List.take_eq_take_iff]
      omega
    change (front ++ bytes.take count ++ back).take (notice.length + count) = _
    have hlengths : notice.length + count = (front ++ bytes.take count).length := by
      rw [List.length_append, hfront, hcount]
    rw [hlengths, List.take_left, List.take_append, hused, hadded]

/-- A number is pushed as its shortest form. -/
theorem pushInt_eq_push (notice : Notice) (value : Int64) :
    notice.pushInt value = notice.push (utf8 (Decimal.text value.toInt)) := by
  change (layOut value).bind notice.push = _
  rw [layOut_eq, Option.bind_some]

theorem Holds.pushInt (h : notice.Holds content) (value : Int64) :
    ∃ after, notice.pushInt value = some after ∧
      after.Holds (content ++ utf8 (Decimal.text value.toInt)) := by
  rw [pushInt_eq_push]
  exact h.push _

/-! ## The notice of a job -/

/-- A report is made of a number, how the job ended, another number, and the words between them. -/
theorem report_holds (opening middle ending closing : String) (pid value : Int32) :
    ∃ notice,
      (do
        let notice ← empty.push (utf8 opening)
        let notice ← notice.pushInt pid.toInt64
        let notice ← notice.push (utf8 middle)
        let notice ← notice.push (utf8 ending)
        let notice ← notice.pushInt value.toInt64
        notice.push (utf8 closing)) = some notice ∧
      notice.Holds (utf8 (opening ++ Decimal.text pid.toInt ++ middle ++
        (ending ++ Decimal.text value.toInt) ++ closing)) := by
  obtain ⟨first, hfirst, h⟩ := holds_empty.push (utf8 opening)
  obtain ⟨second, hsecond, h⟩ := h.pushInt pid.toInt64
  obtain ⟨third, hthird, h⟩ := h.push (utf8 middle)
  obtain ⟨fourth, hfourth, h⟩ := h.push (utf8 ending)
  obtain ⟨fifth, hfifth, h⟩ := h.pushInt value.toInt64
  obtain ⟨last, hlast, h⟩ := h.push (utf8 closing)
  refine ⟨last, by simp [hfirst, hsecond, hthird, hfourth, hfifth, hlast], ?_⟩
  simpa only [utf8_append, Int32.toInt_toInt64, List.nil_append, List.append_assoc] using h

/-- The numbers of a report add at most 22 bytes to the words between them. -/
theorem length_report_le {opening middle ending closing : String} {bound : Nat}
    (h : (utf8 opening).length + (utf8 middle).length + (utf8 ending).length +
      (utf8 closing).length + 22 ≤ bound) (pid value : Int32) :
    (utf8 (opening ++ Decimal.text pid.toInt ++ middle ++ (ending ++ Decimal.text value.toInt) ++
      closing)).length ≤ bound := by
  have hpid := Decimal.length_utf8_text_le pid
  have hvalue := Decimal.length_utf8_text_le value
  simp only [utf8_append, List.length_append]
  omega

theorem build_holds (pid : Pid) (termination : Termination) :
    ∃ notice, build pid termination = some notice ∧ notice.Holds (utf8 (text pid termination)) := by
  cases termination with
  | exited code =>
    exact report_holds "\nbackground pid " " is done: " "exit value " "\n" pid.number code
  | killed signal =>
    exact report_holds "\nbackground pid " " is done: " "terminated by signal " "\n" pid.number
      signal.number

/-- The longest report names the lowest number of a process and of a signal. -/
theorem length_utf8_text_le (pid : Pid) (termination : Termination) :
    (utf8 (text pid termination)).length ≤ 70 := by
  cases termination with
  | exited code => exact length_report_le (by decide) pid.number code
  | killed signal => exact length_report_le (by decide) pid.number signal.number

theorem length_utf8_text_le_capacity (pid : Pid) (termination : Termination) :
    (utf8 (text pid termination)).length ≤ noticeCapacity :=
  (length_utf8_text_le pid termination).trans (by decide)

/-- **The notice of a job is the report of how it ended**, whole and in words. -/
theorem of_eq_text (pid : Pid) (termination : Termination) :
    Notice.of pid termination = utf8 (text pid termination) := by
  obtain ⟨notice, hbuild, hholds⟩ := build_holds pid termination
  rw [Notice.of, hbuild]
  exact hholds.bytes.trans (List.take_of_length_le (length_utf8_text_le_capacity pid termination))

/-- **A notice is what the formatter makes of its numbers, and nothing of it is ever cut off.** For
every process number and every way to end, with any two numbers of 32 bits, the notice is built: no
index is outside of a buffer. It holds the words of a report with the number of the process and the
way it ended as they are displayed, from the first byte to the last one, in at most 70 of the 96
bytes. And what is displayed of both is what the library's formatter writes. -/
theorem build_agrees_with_formatter (pid : Pid) (termination : Termination) :
    let report := "\nbackground pid " ++ pid.text ++ " is done: " ++ termination.text ++ "\n"
    (∃ notice, build pid termination = some notice ∧
      notice.cells.length = noticeCapacity ∧
      notice.bytes = utf8 report ∧
      notice.length = (utf8 report).length) ∧
    (utf8 report).length ≤ 70 ∧
    pid.text = toString pid.number.toInt ∧
    termination.text =
      match termination with
      | .exited code => "exit value " ++ toString code.toInt
      | .killed signal => "terminated by signal " ++ toString signal.number.toInt := by
  intro report
  obtain ⟨notice, hbuild, hholds⟩ := build_holds pid termination
  have hroom := length_utf8_text_le_capacity pid termination
  refine ⟨⟨notice, hbuild, hholds.size, ?_, ?_⟩, length_utf8_text_le pid termination,
    text_eq_toString _, ?_⟩
  · rw [hholds.bytes, List.take_of_length_le hroom]
    rfl
  · rw [hholds.length, min_eq_left hroom]
    rfl
  · cases termination with
    | exited code => exact congrArg ("exit value " ++ ·) (text_eq_toString _)
    | killed signal => exact congrArg ("terminated by signal " ++ ·) (text_eq_toString _)

/-- The longest notice there is. -/
example : (Notice.of ⟨-2147483648⟩ (.killed ⟨-2147483648⟩)).length = 70 := by
  decide +kernel

end Notice

end JobShell
