import JobShell.Child.Status
import JobShell.Proofs.Text.Decimal

/-!
# JobShell.Proofs.Child.Decoding — what a status word tells

The word of a child is taken apart by masks, a shift and a comparison in eight signed bits. Here it
is read as a number: `WaitStatus.cause` are its bits 0 to 6 and `WaitStatus.code` its bits 8 to 15.

* `exitCode?_eq`, `signal?_eq` and `termination?_eq` say what each test answers in terms of the two.
  The comparison leaves out exactly the causes 0 and 127 (`two_le_succ_iff`).
* `describe_eq` says what a diagnostic shows, and `describe_eq_iff` that it tells what was decoded.
* `tells_cause_and_code`: every word is decoded completely, and everything that is said about it
  agrees.
-/

namespace JobShell

/-! ## Numbers in base sixteen -/

namespace Text

theorem hexDigit_eq_digitChar {n : Nat} (h : n < 16) : hexDigit n = Nat.digitChar n := by
  revert n
  decide

/-- The digits are those of the library. -/
theorem hex_eq_toDigits (n : Nat) : hex n = Nat.toDigits 16 n := by
  induction n using hex.induct with
  | case1 n hn => rw [hex, if_pos hn, Nat.toDigits_of_lt_base hn, hexDigit_eq_digitChar hn]
  | case2 n hn ih =>
    have hlast : n % 16 < 16 := Nat.mod_lt n (by decide)
    rw [hex, if_neg hn, ih, hexDigit_eq_digitChar hlast,
      Nat.toDigits_of_base_le (by decide) (Nat.le_of_not_lt hn)]

theorem hexDigit_inj {m n : Nat} (hm : m < 16) (hn : n < 16) (h : hexDigit m = hexDigit n) :
    m = n := by
  have hall : ∀ m < 16, ∀ n < 16, hexDigit m = hexDigit n → m = n := by decide
  exact hall m hm n hn h

theorem hex_ne_nil (n : Nat) : hex n ≠ [] := by
  rw [hex_eq_toDigits]
  exact Nat.toDigits_ne_nil

/-- The digits of a number tell the number. -/
theorem hex_inj {m n : Nat} (h : hex m = hex n) : m = n := by
  induction m using hex.induct generalizing n with
  | case1 m hm =>
    rw [hex, if_pos hm] at h
    rw [hex] at h
    split at h
    · exact hexDigit_inj hm ‹_› (List.cons.inj h).1
    · have hlonger : [] ++ [hexDigit m] = hex (n / 16) ++ [hexDigit (n % 16)] := h
      exact absurd (List.append_inj' hlonger rfl).1.symm (hex_ne_nil _)
  | case2 m hm ih =>
    rw [hex, if_neg hm] at h
    rw [hex.eq_def n] at h
    split at h
    · have hlonger : hex (m / 16) ++ [hexDigit (m % 16)] = [] ++ [hexDigit n] := h
      exact absurd (List.append_inj' hlonger rfl).1 (hex_ne_nil _)
    · obtain ⟨hfront, hlast⟩ := List.append_inj' h rfl
      have hfront := ih hfront
      have hlast := hexDigit_inj (Nat.mod_lt m (by decide)) (Nat.mod_lt n (by decide))
        (List.cons.inj hlast).1
      omega

end Text

open Text Decimal

/-! ## How a signal is shown -/

namespace Signal

/-- A signal as diagnostics show it: by name, or by number if it has none. -/
def label (signal : Signal) : String :=
  signal.name?.getD signal.numeral

/-- The number of the signal that has a name. -/
def numberOf : String → Int
  | "SIGHUP" => 1
  | "SIGINT" => 2
  | "SIGQUIT" => 3
  | "SIGKILL" => 9
  | "SIGUSR1" => 10
  | "SIGUSR2" => 12
  | "SIGPIPE" => 13
  | "SIGALRM" => 14
  | "SIGTERM" => 15
  | "SIGCHLD" => 17
  | "SIGCONT" => 18
  | "SIGSTOP" => 19
  | "SIGTSTP" => 20
  | "SIGTTIN" => 21
  | _ => 22

/-- A name tells the signal, and it is no number. -/
theorem of_name?_eq_some {signal : Signal} {name : String} (h : signal.name? = some name) :
    signal.number.toInt = numberOf name ∧ 'S' ∈ name.toList := by
  unfold name? at h
  split at h
  case h_16 => cases h
  all_goals
    cases h
    exact ⟨‹_›, by decide⟩

theorem toList_numeral (signal : Signal) : signal.numeral.toList = chars signal.number.toInt :=
  Decimal.toList_text signal.number.toInt

/-- What is shown of a signal tells it. -/
theorem label_inj {signal other : Signal} (h : signal.label = other.label) : signal = other := by
  have hnumber : signal.number.toInt = other.number.toInt := by
    rw [label, label] at h
    -- a name has a letter, and a number has none
    have hapart {name : String} {numbered : Signal} (hname : 'S' ∈ name.toList) :
        name ≠ numbered.numeral := by
      intro hsame
      rw [hsame, toList_numeral] at hname
      exact absurd (isNumeral_of_mem_chars hname) (by decide)
    cases hsignal : signal.name? with
    | some name =>
      obtain ⟨hnumber, hletter⟩ := of_name?_eq_some hsignal
      cases hother : other.name? with
      | some otherName =>
        rw [hsignal, hother] at h
        obtain rfl : name = otherName := h
        exact hnumber.trans (of_name?_eq_some hother).1.symm
      | none =>
        rw [hsignal, hother] at h
        exact absurd h (hapart hletter)
    | none =>
      cases hother : other.name? with
      | some otherName =>
        rw [hsignal, hother] at h
        exact absurd h.symm (hapart (of_name?_eq_some hother).2)
      | none =>
        rw [hsignal, hother] at h
        have hchars := congrArg String.toList h
        simp only [Option.getD_none, toList_numeral] at hchars
        exact chars_inj hchars
  obtain ⟨number⟩ := signal
  obtain ⟨otherNumber⟩ := other
  exact congrArg Signal.mk (Int32.toInt_inj.1 hnumber)

end Signal

/-! ## The word as a number -/

namespace WaitStatus

/-- Bits 0 to 6 of the word: zero after an exit, 127 of a child that has not ended, and otherwise
the number of the signal. -/
def cause (status : WaitStatus) : Nat :=
  status.word.toNat % 128

/-- Bits 8 to 15 of the word: the code of an exit. -/
def code (status : WaitStatus) : Nat :=
  status.word.toNat / 256 % 256

theorem cause_lt (status : WaitStatus) : status.cause < 128 :=
  Nat.mod_lt _ (by decide)

theorem code_lt (status : WaitStatus) : status.code < 256 :=
  Nat.mod_lt _ (by decide)

theorem toNat_low (status : WaitStatus) : status.low.toNat = status.cause := by
  have hmask : (0x7f : UInt32).toNat = 2 ^ 7 - 1 := rfl
  rw [low, UInt32.toNat_and, hmask, Nat.and_two_pow_sub_one_eq_mod]
  rfl

theorem low_eq_ofNat (status : WaitStatus) : status.low = UInt32.ofNat status.cause := by
  rw [← toNat_low, UInt32.ofNat_toNat]

theorem high_eq_ofNat (status : WaitStatus) :
    (status.word >>> 8) &&& 0xff = UInt32.ofNat status.code := by
  have hmask : (0xff : UInt32).toNat = 2 ^ 8 - 1 := rfl
  have hshift : (status.word >>> 8).toNat = status.word.toNat / 256 := by
    rw [UInt32.toNat_shiftRight, Nat.shiftRight_eq_div_pow]
    rfl
  have hhigh : ((status.word >>> 8) &&& 0xff).toNat = status.code := by
    rw [UInt32.toNat_and, hmask, Nat.and_two_pow_sub_one_eq_mod, hshift]
    rfl
  rw [← hhigh, UInt32.ofNat_toNat]

/-- One more than seven bits becomes negative in eight signed bits if they are all ones. -/
theorem two_le_succ_iff {n : Nat} (h : n < 128) :
    2 ≤ (UInt32.ofNat n + 1).toUInt8.toInt8 ↔ n ≠ 0 ∧ n ≠ 127 := by
  revert n
  decide

theorem low_eq_zero_iff (status : WaitStatus) : status.low = 0 ↔ status.cause = 0 := by
  rw [← UInt32.toNat_inj, toNat_low]
  rfl

theorem exitCode?_eq (status : WaitStatus) :
    status.exitCode? = if status.cause = 0 then some (Int32.ofNat status.code) else none := by
  simp only [exitCode?, low_eq_zero_iff, high_eq_ofNat]
  rfl

theorem signal?_eq (status : WaitStatus) :
    status.signal? =
      if status.cause ≠ 0 ∧ status.cause ≠ 127 then some ⟨Int32.ofNat status.cause⟩ else none := by
  have hrange := two_le_succ_iff status.cause_lt
  simp only [signal?, low_eq_ofNat, hrange]
  rfl

/-- The word of a child is decoded by its cause and its code. -/
theorem termination?_eq (status : WaitStatus) :
    status.termination? =
      if status.cause = 0 then some (.exited (Int32.ofNat status.code))
      else if status.cause = 127 then none
      else some (.killed ⟨Int32.ofNat status.cause⟩) := by
  rw [termination?, exitCode?_eq, signal?_eq]
  by_cases hzero : status.cause = 0
  · simp only [hzero, if_true]
  · by_cases hones : status.cause = 127
    · simp [hones]
    · simp [hzero, hones]

theorem toInt_code (status : WaitStatus) : (Int32.ofNat status.code).toInt = status.code :=
  Int32.toInt_ofNat_of_lt (by have := status.code_lt; omega)

theorem toInt_cause (status : WaitStatus) : (Int32.ofNat status.cause).toInt = status.cause :=
  Int32.toInt_ofNat_of_lt (by have := status.cause_lt; omega)

theorem termination?_eq_exited_iff {status : WaitStatus} {code : Int32} :
    status.termination? = some (.exited code) ↔ status.cause = 0 ∧ code.toInt = status.code := by
  -- the code is below 256, so its word of 32 bits is the number itself
  rw [termination?_eq, ← toInt_code, Int32.toInt_inj]
  by_cases hzero : status.cause = 0
  · simp [hzero, eq_comm]
  · by_cases hones : status.cause = 127 <;> simp [hzero, hones]

theorem termination?_eq_killed_iff {status : WaitStatus} {signal : Signal} :
    status.termination? = some (.killed signal) ↔
      status.cause ≠ 0 ∧ status.cause ≠ 127 ∧ signal.number.toInt = status.cause := by
  obtain ⟨number⟩ := signal
  rw [termination?_eq, ← toInt_cause, Int32.toInt_inj]
  by_cases hzero : status.cause = 0
  · simp [hzero]
  · by_cases hones : status.cause = 127
    · simp [hones]
    · simp [hzero, hones, eq_comm (a := number)]

theorem termination?_eq_none_iff {status : WaitStatus} :
    status.termination? = none ↔ status.cause = 127 := by
  rw [termination?_eq]
  by_cases hzero : status.cause = 0
  · simp [hzero]
  · by_cases hones : status.cause = 127 <;> simp [hzero, hones]

/-- Words with the same cause and the same code are decoded alike. -/
theorem termination?_congr {status other : WaitStatus} (hcause : status.cause = other.cause)
    (hcode : status.code = other.code) : status.termination? = other.termination? := by
  rw [termination?_eq, termination?_eq, hcause, hcode]

end WaitStatus

theorem Termination.isSuccess_iff {termination : Termination} :
    termination.isSuccess = true ↔ termination = .exited 0 := by
  cases termination <;> simp [isSuccess]

/-! ## What diagnostics show -/

/-- What diagnostics show of the way a child ended. -/
def Termination.shown : Termination → String
  | .exited code => "ExitStatus(" ++ toString code.toInt ++ ")"
  | .killed signal => "TermSignal(" ++ signal.label ++ ")"

theorem Termination.shown_inj {termination other : Termination}
    (h : termination.shown = other.shown) : termination = other := by
  have hletters := congrArg String.toList h
  cases termination with
  | exited code =>
    cases other with
    | exited otherCode =>
      simp only [shown, String.append_left_inj, String.append_right_inj, ← text_eq_toString] at h
      have hchars := congrArg String.toList h
      rw [Decimal.toList_text, Decimal.toList_text] at hchars
      exact congrArg exited (Int32.toInt_inj.1 (chars_inj hchars))
    | killed signal => simp [shown] at hletters
  | killed signal =>
    cases other with
    | exited code => simp [shown] at hletters
    | killed otherSignal =>
      simp only [shown, String.append_left_inj, String.append_right_inj] at h
      exact congrArg killed (Signal.label_inj h)

namespace WaitStatus

/-- What diagnostics show of a word that tells nothing. -/
def raw (status : WaitStatus) : String :=
  "WaitStatus(0x" ++ String.ofList (Nat.toDigits 16 status.word.toNat) ++ ")"

theorem raw_inj {status other : WaitStatus} (h : status.raw = other.raw) : status = other := by
  simp only [raw, String.append_left_inj, String.append_right_inj, String.ofList_inj,
    ← hex_eq_toDigits] at h
  obtain ⟨word⟩ := status
  obtain ⟨otherWord⟩ := other
  exact congrArg WaitStatus.mk (UInt32.toNat_inj.1 (hex_inj h))

theorem shown_ne_raw (termination : Termination) (status : WaitStatus) :
    termination.shown ≠ status.raw := by
  intro h
  have hletters := congrArg String.toList h
  cases termination <;> simp [Termination.shown, raw] at hletters

/-- What diagnostics show of a word is what was decoded, and the word itself only if nothing was. -/
theorem describe_eq (status : WaitStatus) :
    status.describe = (status.termination?.map Termination.shown).getD status.raw := by
  rw [describe, termination?]
  cases status.exitCode? with
  | some code =>
    change "ExitStatus(" ++ Decimal.text code.toInt ++ ")" = _
    rw [text_eq_toString]
    rfl
  | none =>
    cases status.signal? with
    | some signal => rfl
    | none =>
      change "WaitStatus(0x" ++ String.ofList (hex status.word.toNat) ++ ")" = _
      rw [hex_eq_toDigits]
      rfl

/-- Two words are shown alike if they were decoded alike and, if nothing was decoded, they are the
same. -/
theorem describe_eq_iff {status other : WaitStatus} :
    status.describe = other.describe ↔
      status.termination? = other.termination? ∧ (status.termination? = none → status = other) := by
  rw [describe_eq, describe_eq]
  cases hstatus : status.termination? with
  | none =>
    cases hother : other.termination? with
    | none =>
      refine ⟨fun h => ⟨rfl, fun _ => raw_inj h⟩, fun h => ?_⟩
      rw [h.2 rfl]
    | some ending => simpa using (shown_ne_raw ending status).symm
  | some ending =>
    cases hother : other.termination? with
    | none => simpa using shown_ne_raw ending other
    | some otherEnding => simpa using ⟨Termination.shown_inj, congrArg Termination.shown⟩

/-- Neither the bit of a core dump nor what stands above bit 15 is part of the cause or the code. -/
theorem cause_xor_dump (status : WaitStatus) :
    cause ⟨status.word ^^^ 0x80⟩ = status.cause := by
  have hdump : (0x80 : UInt32).toNat = 128 := rfl
  rw [cause, UInt32.toNat_xor, hdump]
  change (status.word.toNat ^^^ 128) % 2 ^ 7 = _
  rw [Nat.xor_mod_two_pow]
  exact Nat.xor_zero _

theorem code_xor_dump (status : WaitStatus) : code ⟨status.word ^^^ 0x80⟩ = status.code := by
  have hdump : (0x80 : UInt32).toNat = 128 := rfl
  rw [code, UInt32.toNat_xor, hdump]
  change (status.word.toNat ^^^ 128) / 2 ^ 8 % 256 = _
  rw [← Nat.shiftRight_eq_div_pow, Nat.shiftRight_xor_distrib]
  change (status.word.toNat >>> 8 ^^^ 0) % 256 = _
  rw [Nat.xor_zero, Nat.shiftRight_eq_div_pow]
  rfl

theorem toNat_half (status : WaitStatus) :
    (status.word &&& 0xffff).toNat = status.word.toNat % 65536 := by
  have hmask : (0xffff : UInt32).toNat = 2 ^ 16 - 1 := rfl
  rw [UInt32.toNat_and, hmask, Nat.and_two_pow_sub_one_eq_mod]

theorem cause_half (status : WaitStatus) : cause ⟨status.word &&& 0xffff⟩ = status.cause := by
  rw [cause, toNat_half, cause]
  omega

theorem code_half (status : WaitStatus) : code ⟨status.word &&& 0xffff⟩ = status.code := by
  rw [code, toNat_half, code]
  omega

/-- What a word tells, and that it is told in the same way everywhere. -/
structure Tells (status : WaitStatus) : Prop where
  /-- No word has both a code and a signal. -/
  apart : status.exitCode? = none ∨ status.signal? = none
  /-- The child exited if the cause is zero. The code is that of the word, so it is at most 255. -/
  exited : ∀ code,
    status.termination? = some (.exited code) ↔ status.cause = 0 ∧ code.toInt = status.code
  /-- A signal killed it if the cause is neither zero nor all ones, and then that is the signal. -/
  killed : ∀ signal, status.termination? = some (.killed signal) ↔
    status.cause ≠ 0 ∧ status.cause ≠ 127 ∧ signal.number.toInt = status.cause
  /-- Otherwise the child has not ended. -/
  unended : status.termination? = none ↔ status.cause = 127
  /-- The code and the signal are those that the word has. -/
  parts : status.exitCode? = (match status.termination? with
      | some (.exited code) => some code
      | _ => none) ∧
    status.signal? = (match status.termination? with
      | some (.killed signal) => some signal
      | _ => none)
  /-- Whether there was a core dump does not matter. -/
  dumped : termination? ⟨status.word ^^^ 0x80⟩ = status.termination?
  /-- The higher half of the word does not matter. -/
  halved : termination? ⟨status.word &&& 0xffff⟩ = status.termination?
  /-- A diagnostic shows the code, or the signal by name or by number, or else the word. -/
  shown : status.describe = match status.termination? with
    | some (.exited code) => "ExitStatus(" ++ toString code.toInt ++ ")"
    | some (.killed signal) =>
      "TermSignal(" ++ signal.name?.getD (toString signal.number.toInt) ++ ")"
    | none => "WaitStatus(0x" ++ String.ofList (Nat.toDigits 16 status.word.toNat) ++ ")"
  /-- And what it shows tells what was decoded. -/
  shownApart : ∀ other : WaitStatus, status.describe = other.describe ↔
    status.termination? = other.termination? ∧ (status.termination? = none → status = other)
  /-- The child succeeded if all of these bits are zero. -/
  success : (∃ termination, status.termination? = some termination ∧ termination.isSuccess = true) ↔
    status.cause = 0 ∧ status.code = 0
  /-- The outcome has a message if a signal killed the child, which is how it ended in words. -/
  message : ∀ termination text, (Outcome.ofTermination termination).message = some text ↔
    (∃ signal, termination = .killed signal) ∧ text = termination.text

/-- **Every word is decoded completely and consistently**, whichever of its 32 bits are set. -/
theorem tells_cause_and_code (status : WaitStatus) : status.Tells where
  apart := by
    rw [exitCode?_eq, signal?_eq]
    by_cases hzero : status.cause = 0 <;> simp [hzero]
  exited := fun _ => termination?_eq_exited_iff
  killed := fun _ => termination?_eq_killed_iff
  unended := termination?_eq_none_iff
  parts := by
    rw [exitCode?_eq, signal?_eq, termination?_eq]
    by_cases hzero : status.cause = 0
    · simp [hzero]
    · by_cases hones : status.cause = 127 <;> simp [hzero, hones]
  dumped := termination?_congr status.cause_xor_dump status.code_xor_dump
  halved := termination?_congr status.cause_half status.code_half
  shown := by
    rw [describe_eq]
    cases status.termination? with
    | none => rfl
    | some termination =>
      cases termination with
      | exited code => rfl
      | killed signal =>
        change "TermSignal(" ++ signal.name?.getD (Decimal.text signal.number.toInt) ++ ")" = _
        rw [text_eq_toString]
  shownApart := fun _ => describe_eq_iff
  success := by
    have hzero : (0 : Int32).toInt = status.code ↔ status.code = 0 := by
      rw [eq_comm]
      exact Int.natCast_eq_zero
    rw [← hzero, ← termination?_eq_exited_iff]
    simp only [Termination.isSuccess_iff, exists_eq_right]
  message := by
    intro termination text
    cases termination with
    | exited code => simp [Outcome.ofTermination]
    | killed signal => simp [Outcome.ofTermination, eq_comm]

/-- The highest word, of a child that has not ended. -/
example : (⟨0xffffffff⟩ : WaitStatus).describe = "WaitStatus(0xffffffff)" := by
  decide +kernel

end WaitStatus

end JobShell
