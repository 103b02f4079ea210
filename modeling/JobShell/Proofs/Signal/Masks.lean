import JobShell.Signal.Set

/-!
# JobShell.Proofs.Signal.Masks — the members of sets and masks

A set of signals is a word with one bit for each number from 1 to 64, and what is said about sets is
said about their members here.

* `SignalSet.has_union`, `has_sdiff`, `has_bit` and `has_full` are the members of every set that can
  be made; by `SignalSet.ext_has` a set is determined by its members.
* `MaskChange.has_apply_iff` says which members a mask has after a change.
* `SignalSet.IsMask` are the sets that a process can have as its mask, and `MaskChange.isMask_apply`
  says that no change leads to any other.
-/

namespace JobShell

namespace Signal

theorem inRange_iff (signal : Signal) :
    signal.inRange = true ↔ 1 ≤ signal.number.toInt ∧ signal.number.toInt ≤ 64 := by
  simp [inRange]

/-- A signal in range has a place among the bits of a set. -/
theorem place_lt {signal : Signal} (h : signal.inRange = true) :
    signal.number.toInt.toNat - 1 < 64 := by
  have hrange := signal.inRange_iff.1 h
  omega

/-- No two signals in range share a place. -/
theorem place_inj {signal other : Signal} (h : signal.inRange = true)
    (hother : other.inRange = true) :
    signal.number.toInt.toNat - 1 = other.number.toInt.toNat - 1 ↔ signal = other := by
  constructor
  · intro hplace
    have hrange := signal.inRange_iff.1 h
    have hrange' := other.inRange_iff.1 hother
    have hnumber : signal.number = other.number := Int32.toInt_inj.1 (by omega)
    cases signal
    cases other
    exact congrArg Signal.mk hnumber
  · rintro rfl
    rfl

/-- Every place is that of a signal in range. -/
theorem exists_place {place : Nat} (h : place < 64) :
    ∃ signal : Signal, signal.inRange = true ∧ signal.number.toInt.toNat - 1 = place := by
  have hnumber : (Int32.ofNat (place + 1)).toInt = (place + 1 : Nat) :=
    Int32.toInt_ofNat_of_lt (by omega)
  refine ⟨⟨Int32.ofNat (place + 1)⟩, ?_, ?_⟩
  · rw [inRange_iff, hnumber]
    omega
  · rw [hnumber]
    omega

theorem inRange_of_isNameable {signal : Signal} (h : signal.isNameable = true) :
    signal.inRange = true := by
  simp only [isNameable, Bool.and_eq_true] at h
  exact h.1.1

theorem eq_iff_toInt (signal : Signal) (number : Int32) :
    signal = ⟨number⟩ ↔ signal.number.toInt = number.toInt := by
  rw [Int32.toInt_inj]
  constructor
  · rintro rfl
    rfl
  · intro h
    cases signal
    exact congrArg Signal.mk h

end Signal

namespace SignalSet

/-! ## Members of sets -/

theorem ext_bits {set other : SignalSet} (h : set.bits = other.bits) : set = other := by
  cases set
  cases other
  exact congrArg SignalSet.mk h

/-- Sets with the same members are the same. -/
theorem ext_has {set other : SignalSet} (h : ∀ signal, set.has signal = other.has signal) :
    set = other := by
  apply ext_bits
  apply BitVec.eq_of_getLsbD_eq
  intro place hplace
  obtain ⟨signal, hrange, rfl⟩ := Signal.exists_place hplace
  have hsame := h signal
  unfold has at hsame
  rwa [hrange, Bool.true_and, Bool.true_and] at hsame

@[simp] theorem has_empty (signal : Signal) : empty.has signal = false := by
  unfold has empty
  rw [BitVec.ofNat_eq_ofNat, BitVec.getLsbD_zero, Bool.and_false]

@[simp] theorem has_union (set other : SignalSet) (signal : Signal) :
    (set ∪ other).has signal = (set.has signal || other.has signal) := by
  change (signal.inRange && (set.bits ||| other.bits).getLsbD _) = _
  rw [BitVec.getLsbD_or, Bool.and_or_distrib_left]
  rfl

@[simp] theorem has_sdiff (set other : SignalSet) (signal : Signal) :
    (set \ other).has signal = (set.has signal && !other.has signal) := by
  change (signal.inRange && (set.bits &&& ~~~other.bits).getLsbD _) = _
  unfold has
  -- The complement has all places that are in the word, so a member has to be in range.
  cases hrange : signal.inRange with
  | false => rfl
  | true =>
    have hplace := Signal.place_lt hrange
    simp only [BitVec.getLsbD_and, BitVec.getLsbD_not, hplace, decide_true, Bool.true_and]

/-- The set that is made for one signal has no other member. -/
theorem has_bit {signal : Signal} (h : signal.inRange = true) (other : Signal) :
    (bit signal).has other = decide (other = signal) := by
  unfold has bit
  rw [← BitVec.twoPow_eq, BitVec.getLsbD_twoPow, decide_eq_true (Signal.place_lt h), Bool.true_and]
  cases hrange : other.inRange with
  | false =>
    have hne : other ≠ signal := by
      rintro rfl
      rw [h] at hrange
      cases hrange
    rw [Bool.false_and, decide_eq_false hne]
  | true =>
    rw [Bool.true_and, Bool.eq_iff_iff, decide_eq_true_iff, decide_eq_true_iff,
      Signal.place_inj h hrange]
    exact eq_comm

theorem has_unmaskable_iff (signal : Signal) :
    unmaskable.has signal = true ↔ signal = .kill ∨ signal = .stop := by
  unfold unmaskable
  rw [has_union, has_bit (by decide), has_bit (by decide), Bool.or_eq_true, decide_eq_true_iff,
    decide_eq_true_iff]

/-- The full set has the signals that a program may name, and no others. -/
theorem has_full (signal : Signal) : full.has signal = signal.isNameable := by
  have hall : (⟨BitVec.allOnes 64⟩ : SignalSet).has signal = signal.inRange := by
    unfold has
    cases hrange : signal.inRange with
    | false => rfl
    | true => rw [BitVec.getLsbD_allOnes, decide_eq_true (Signal.place_lt hrange), Bool.true_and]
  have hfirst : decide (signal = ⟨32⟩) = (signal.number.toInt == 32) :=
    decide_eq_decide.2 (signal.eq_iff_toInt 32)
  have hsecond : decide (signal = ⟨33⟩) = (signal.number.toInt == 33) :=
    decide_eq_decide.2 (signal.eq_iff_toInt 33)
  -- The two signals that are left out are those that the thread library keeps for itself.
  unfold full Signal.isNameable
  rw [has_sdiff, has_union, has_bit (by decide), has_bit (by decide), hall, hfirst, hsecond,
    Bool.not_or, Bool.and_assoc]
  rfl

theorem single_eq_ok_iff {signal : Signal} {set : SignalSet} :
    single signal = .ok set ↔ signal.isNameable = true ∧ set = bit signal := by
  unfold single
  cases signal.isNameable <;> simp [eq_comm]

theorem single_eq_error_iff {signal : Signal} {errno : Errno} :
    single signal = .error errno ↔ signal.isNameable = false ∧ errno = .invalidArgument := by
  unfold single
  cases signal.isNameable <;> simp [eq_comm]

/-! ## Masks -/

/-- Whether a process can have the set as its mask: the signals that it cannot refuse are not in
it. -/
def IsMask (set : SignalSet) : Prop :=
  set \ unmaskable = set

instance (set : SignalSet) : Decidable set.IsMask :=
  inferInstanceAs (Decidable (set \ unmaskable = set))

theorem isMask_iff (set : SignalSet) :
    set.IsMask ↔ set.has .kill = false ∧ set.has .stop = false := by
  constructor
  · intro h
    have hkill : unmaskable.has .kill = true := (has_unmaskable_iff .kill).2 (.inl rfl)
    have hstop : unmaskable.has .stop = true := (has_unmaskable_iff .stop).2 (.inr rfl)
    rw [← h, has_sdiff, has_sdiff, hkill, hstop]
    exact ⟨Bool.and_false _, Bool.and_false _⟩
  · rintro ⟨hkill, hstop⟩
    -- Member by member: only the two can be lost, and neither is there.
    apply ext_has
    intro signal
    rw [has_sdiff]
    cases hunmaskable : unmaskable.has signal with
    | false => rw [Bool.not_false, Bool.and_true]
    | true =>
      rcases (has_unmaskable_iff signal).1 hunmaskable with rfl | rfl
      · rw [hkill, Bool.false_and]
      · rw [hstop, Bool.false_and]

theorem IsMask.replace {set : SignalSet} (h : set.IsMask) (mask : SignalSet) :
    MaskChange.replace.apply set mask = set := h

/-- What is left of a set without the signals that cannot be refused is a mask. -/
theorem isMask_sdiff (set : SignalSet) : (set \ unmaskable).IsMask := by
  apply ext_has
  intro signal
  simp

end SignalSet

namespace MaskChange

/-- What a change asks of a signal: whether the signal is to be in the mask afterwards. -/
def Asks (change : MaskChange) (set mask : SignalSet) (signal : Signal) : Prop :=
  match change with
  | .block => mask.has signal = true ∨ set.has signal = true
  | .unblock => mask.has signal = true ∧ set.has signal = false
  | .replace => set.has signal = true

/-- A change makes the mask what it asks for, but for the signals that cannot be refused. -/
theorem has_apply_iff (change : MaskChange) (set mask : SignalSet) (signal : Signal) :
    (change.apply set mask).has signal = true ↔
      change.Asks set mask signal ∧ signal ≠ .kill ∧ signal ≠ .stop := by
  have hkept : SignalSet.unmaskable.has signal = false ↔ signal ≠ .kill ∧ signal ≠ .stop := by
    rw [← Bool.not_eq_true, SignalSet.has_unmaskable_iff, not_or]
  unfold apply
  rw [SignalSet.has_sdiff, Bool.and_eq_true, Bool.not_eq_true', hkept]
  cases change with
  | block => simp [Asks]
  | unblock => simp [Asks]
  | replace => simp [Asks]

/-- No change leads to a set that is no mask. -/
theorem isMask_apply (change : MaskChange) (set mask : SignalSet) :
    (change.apply set mask).IsMask :=
  SignalSet.isMask_sdiff _

end MaskChange

end JobShell
