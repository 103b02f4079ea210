import JobShell.Text.Decimal
import Mathlib.Algebra.Group.Nat.Defs
import Mathlib.Tactic.Common

/-!
# JobShell.Proofs.Text.Decimal — the shortest form is the usual one

Numbers in messages are written digit by digit. What comes out is what the library's formatter
writes (`text_eq_toString`): digits that tell the number, and a sign that no digit is taken for. So
a number can be told from whatever stands behind it, if that starts with a character of another
kind. And nothing shorter is read as the number (`isShortest_toString`).
-/

namespace JobShell.Text.Decimal

theorem toList_text (n : Int) : (text n).toList = chars n :=
  String.toList_ofList

theorem digit_eq_digitChar {n : Nat} (h : n < 10) : digit n = Nat.digitChar n := by
  revert n
  decide

/-- The digits are those of the library. -/
theorem digits_eq_toDigits (n : Nat) : digits n = Nat.toDigits 10 n := by
  induction n using digits.induct with
  | case1 n hn => rw [digits, if_pos hn, Nat.toDigits_of_lt_base hn, digit_eq_digitChar hn]
  | case2 n hn ih =>
    have hlast : n % 10 < 10 := Nat.mod_lt n (by decide)
    rw [digits, if_neg hn, ih, digit_eq_digitChar hlast,
      Nat.toDigits_of_base_le (by decide) (Nat.le_of_not_lt hn)]

/-- A number is written as the library's formatter writes it. -/
theorem text_eq_toString (n : Int) : text n = toString n := by
  rw [Int.toString_eq_repr]
  cases n with
  | ofNat n =>
    rw [text, chars, digits_eq_toDigits]
    exact Nat.repr_eq_ofList_toDigits.symm
  | negSucc n =>
    rw [text, chars, digits_eq_toDigits, String.ofList_cons, ← Nat.repr_eq_ofList_toDigits]
    rfl

theorem isDigit_of_mem_digits {n : Nat} {c : Char} (h : c ∈ digits n) : c.isDigit = true := by
  rw [digits_eq_toDigits] at h
  exact Nat.isDigit_of_mem_toDigits (by decide) (by decide) h

/-- The digits of a number tell the number. -/
theorem digits_inj {m n : Nat} (h : digits m = digits n) : m = n := by
  rw [digits_eq_toDigits, digits_eq_toDigits] at h
  have hvalue := congrArg (Nat.ofDigitChars 10 · 0) h
  simpa only [Nat.ofDigitChars_ten_toDigits] using hvalue

theorem digits_ne_sign_cons {n : Nat} {rest : List Char} : digits n ≠ '-' :: rest := by
  intro h
  have hsign : '-' ∈ digits n := h ▸ List.mem_cons_self
  exact absurd (isDigit_of_mem_digits hsign) (by decide)

/-- The form of a number tells the number. -/
theorem chars_inj {m n : Int} (h : chars m = chars n) : m = n := by
  cases m with
  | ofNat m =>
    cases n with
    | ofNat n => exact congrArg Int.ofNat (digits_inj h)
    | negSucc n => exact absurd h digits_ne_sign_cons
  | negSucc m =>
    cases n with
    | ofNat n => exact absurd h.symm digits_ne_sign_cons
    | negSucc n => exact congrArg Int.negSucc (Nat.succ.inj (digits_inj (List.cons.inj h).2))

/-- The characters that numbers are written with. -/
def isNumeral (c : Char) : Bool :=
  c.isDigit || c == '-'

theorem isNumeral_of_mem_chars {n : Int} {c : Char} (h : c ∈ chars n) : isNumeral c = true := by
  rw [isNumeral, Bool.or_eq_true, beq_iff_eq]
  cases n with
  | ofNat n => exact .inl (isDigit_of_mem_digits h)
  | negSucc n =>
    rcases List.mem_cons.1 h with hsign | hdigit
    · exact .inr hsign
    · exact .inl (isDigit_of_mem_digits hdigit)

/-- A number ends where a character stands that numbers are not written with. -/
theorem takeWhile_chars_append (n : Int) {stop : Char} (rest : List Char)
    (hstop : isNumeral stop = false) :
    (chars n ++ stop :: rest).takeWhile isNumeral = chars n := by
  have hnone : (stop :: rest).takeWhile isNumeral = [] :=
    List.takeWhile_cons_of_neg (by simp [hstop])
  rw [List.takeWhile_append_of_pos fun _ => isNumeral_of_mem_chars, hnone, List.append_nil]

/-! ## The shortest form -/

/-- Characters that are read as an integer: some digits, or a minus sign and some digits. -/
inductive Denotes : List Char → Int → Prop
  | unsigned {numerals : List Char} (hne : numerals ≠ [])
      (hdigits : ∀ c ∈ numerals, c.isDigit = true) :
      Denotes numerals (Nat.ofDigitChars 10 numerals 0)
  | signed {numerals : List Char} (hne : numerals ≠ [])
      (hdigits : ∀ c ∈ numerals, c.isDigit = true) :
      Denotes ('-' :: numerals) (-(Nat.ofDigitChars 10 numerals 0 : Int))

/-- Characters that are read as an integer, if no fewer are. -/
def IsShortest (symbols : List Char) (n : Int) : Prop :=
  Denotes symbols n ∧ ∀ others, Denotes others n → symbols.length ≤ others.length

/-- So many digits tell a number below this power of ten. -/
theorem ofDigitChars_lt {numerals : List Char} (h : ∀ c ∈ numerals, c.isDigit = true) :
    Nat.ofDigitChars 10 numerals 0 < 10 ^ numerals.length := by
  induction numerals with
  | nil => exact Nat.one_pos
  | cons c numerals ih =>
    have hrest := ih fun other hother => h other (List.mem_cons_of_mem c hother)
    have hdigit : c.toNat - '0'.toNat ≤ 9 := by
      have hc := h c List.mem_cons_self
      simp only [Char.isDigit, Bool.and_eq_true, decide_eq_true_eq] at hc
      have hnine : c.toNat ≤ '9'.toNat := hc.2
      exact Nat.sub_le_of_le_add hnine
    rw [Nat.ofDigitChars_cons, Nat.ofDigitChars_eq_ofDigitChars_zero, Nat.mul_zero, Nat.zero_add,
      List.length_cons, Nat.pow_succ]
    have hfront := Nat.mul_le_mul_left (10 ^ numerals.length) hdigit
    omega

/-- The digits of a number are as few as any that tell it. -/
theorem length_digits_le {numerals : List Char} (hne : numerals ≠ [])
    (hdigits : ∀ c ∈ numerals, c.isDigit = true) :
    (digits (Nat.ofDigitChars 10 numerals 0)).length ≤ numerals.length := by
  rw [digits_eq_toDigits,
    Nat.length_toDigits_le_iff (by decide) (List.length_pos_iff.2 hne)]
  exact ofDigitChars_lt hdigits

theorem denotes_chars (n : Int) : Denotes (chars n) n := by
  have hread (magnitude : Nat) : Nat.ofDigitChars 10 (digits magnitude) 0 = magnitude := by
    rw [digits_eq_toDigits, Nat.ofDigitChars_ten_toDigits]
  have hne (magnitude : Nat) : digits magnitude ≠ [] := by
    rw [digits_eq_toDigits]
    exact Nat.toDigits_ne_nil
  cases n with
  | ofNat magnitude =>
    have hplain := Denotes.unsigned (hne magnitude) fun _ => isDigit_of_mem_digits
    rwa [hread] at hplain
  | negSucc magnitude =>
    have hminus := Denotes.signed (hne (magnitude + 1)) fun _ => isDigit_of_mem_digits
    rwa [hread] at hminus

theorem length_chars_le {symbols : List Char} {n : Int} (h : Denotes symbols n) :
    (chars n).length ≤ symbols.length := by
  cases h with
  | unsigned hne hdigits => exact length_digits_le hne hdigits
  | @signed numerals hne hdigits =>
    have hshort := length_digits_le hne hdigits
    rw [List.length_cons]
    cases hvalue : Nat.ofDigitChars 10 numerals 0 with
    -- zero needs no sign
    | zero =>
      rw [hvalue] at hshort
      exact Nat.le_succ_of_le hshort
    | succ magnitude =>
      rw [hvalue] at hshort
      exact Nat.succ_le_succ hshort

/-- **The library's formatter writes every integer in its shortest form.** -/
theorem isShortest_toString (n : Int) : IsShortest (toString n).toList n := by
  rw [← text_eq_toString, toList_text]
  exact ⟨denotes_chars n, fun _ => length_chars_le⟩

end JobShell.Text.Decimal
