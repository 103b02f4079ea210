import Mathlib.Logic.Relation
import JobShell.Proofs.Signal.Masks
import JobShell.Supervisor.Foreground

/-!
# JobShell.Proofs.Signal.Brackets — mask changes that are undone in reverse order

A call that changes the mask of a process answers the mask before. Whoever keeps the answer and sets
it again afterwards has put a bracket around what happens in between. The two signals that cannot be
refused are no hindrance: a mask never has them, so setting a mask again makes it exactly the mask.

* `MaskChange.call` is the call. What it does to the members of a mask is `has_apply_iff`.
* `MaskStep` is what a program does with masks and sets, and `WellNested` are the sequences in which
  every bracket that is opened is closed, the inner ones first.
* `Masking.isMask_perform` is the step lemma, and `WellNested.run_restores` the induction over the
  brackets.
* `WellNested.exists_leave` finds the end of every bracket in such a sequence, so that
  `Masking.brackets_restore` can say of each one that the mask at its end is that at its start.
-/

namespace JobShell

/-- The call that changes the mask of a process: what it answers is the mask before. -/
def MaskChange.call (change : MaskChange) (set mask : SignalSet) : SignalSet × SignalSet :=
  (mask, change.apply set mask)

/-- What a program can ask for when it makes a set. -/
inductive SetRequest where
  | empty
  | full
  | single (signal : Signal)
deriving DecidableEq, Repr

/-- The set that was asked for. -/
def SetRequest.result : SetRequest → Except Errno SignalSet
  | .empty => .ok .empty
  | .full => .ok .full
  | .single signal => SignalSet.single signal

/-- A program with its mask and its sets. -/
structure Masking where
  mask : SignalSet
  /-- The sets that it has made, the latest first. -/
  made : List SignalSet := []
  /-- The answers that it keeps for the brackets that are open, innermost first. -/
  saved : List SignalSet := []
deriving DecidableEq, Repr

/-- What a program does with masks and sets. -/
inductive MaskStep where
  | make (request : SetRequest)
  /-- Opens a bracket: changes the mask and keeps the answer. -/
  | enter (change : MaskChange) (set : SignalSet)
  /-- Closes the innermost bracket: sets its answer again. -/
  | leave
deriving DecidableEq, Repr

namespace Masking

def make (masking : Masking) (request : SetRequest) : Except Errno SignalSet × Masking :=
  match request.result with
  | .ok set => (.ok set, { masking with made := set :: masking.made })
  | .error errno => (.error errno, masking)

def enter (masking : Masking) (change : MaskChange) (set : SignalSet) : Masking :=
  { masking with
    mask := (change.call set masking.mask).2
    saved := (change.call set masking.mask).1 :: masking.saved }

def leave (masking : Masking) : Masking :=
  match masking.saved with
  | [] => masking
  | answer :: saved =>
    { masking with mask := (MaskChange.replace.call answer masking.mask).2, saved }

def perform (masking : Masking) : MaskStep → Masking
  | .make request => (masking.make request).2
  | .enter change set => masking.enter change set
  | .leave => masking.leave

/-- The program after some steps. -/
def run (masking : Masking) (steps : List MaskStep) : Masking :=
  steps.foldl perform masking

theorem run_append (masking : Masking) (steps others : List MaskStep) :
    masking.run (steps ++ others) = (masking.run steps).run others :=
  List.foldl_append

/-! ## One step -/

theorem make_of_error {masking : Masking} {request : SetRequest} {errno : Errno}
    (h : (masking.make request).1 = .error errno) : (masking.make request).2 = masking := by
  unfold make at h ⊢
  split at h
  · cases h
  · rfl

/-- Making a set has nothing to do with the mask. -/
theorem make_keeps (masking : Masking) (request : SetRequest) :
    (masking.make request).2.mask = masking.mask ∧
      (masking.make request).2.saved = masking.saved := by
  unfold make
  split
  · exact ⟨rfl, rfl⟩
  · exact ⟨rfl, rfl⟩

/-- Setting a mask again makes it the mask: no signal has to be left out of it. -/
theorem leave_of_saved {masking : Masking} {answer : SignalSet} {saved : List SignalSet}
    (h : masking.saved = answer :: saved) (hanswer : answer.IsMask) :
    masking.leave = { masking with mask := answer, saved } := by
  have hmask : (MaskChange.replace.call answer masking.mask).2 = answer :=
    hanswer.replace masking.mask
  unfold leave
  rw [h]
  dsimp only
  rw [hmask]

/-- No step leads to a mask that a process cannot have. -/
theorem isMask_perform {masking : Masking} (hmask : masking.mask.IsMask) (step : MaskStep) :
    (masking.perform step).mask.IsMask := by
  cases step with
  | make request => rwa [perform, (masking.make_keeps request).1]
  | enter change set => exact change.isMask_apply set masking.mask
  | leave =>
    change masking.leave.mask.IsMask
    unfold leave
    split
    · exact hmask
    · exact MaskChange.isMask_apply _ _ _

theorem isMask_run {masking : Masking} (hmask : masking.mask.IsMask) (steps : List MaskStep) :
    (masking.run steps).mask.IsMask := by
  induction steps generalizing masking with
  | nil => exact hmask
  | cons step steps ih => exact ih (isMask_perform hmask step)

end Masking

/-! ## Sequences of brackets -/

/-- Every bracket that is opened is closed, the inner ones first. -/
inductive WellNested : List MaskStep → Prop
  | nil : WellNested []
  | make (request : SetRequest) {after : List MaskStep} (hafter : WellNested after) :
      WellNested (.make request :: after)
  | bracket (change : MaskChange) (set : SignalSet) {inner after : List MaskStep}
      (hinner : WellNested inner) (hafter : WellNested after) :
      WellNested (.enter change set :: (inner ++ .leave :: after))

namespace WellNested

variable {masking : Masking}

/-- Brackets in their order give back the mask and leave the answers of others alone. -/
theorem run_restores {steps : List MaskStep} (h : WellNested steps)
    (hmask : masking.mask.IsMask) :
    (masking.run steps).mask = masking.mask ∧ (masking.run steps).saved = masking.saved := by
  induction h generalizing masking with
  | nil => exact ⟨rfl, rfl⟩
  | make request _ ih =>
    rcases masking.make_keeps request with ⟨hsame, hkept⟩
    rcases ih (Masking.isMask_perform hmask (.make request)) with ⟨hrun, hsaved⟩
    exact ⟨hrun.trans hsame, hsaved.trans hkept⟩
  | @bracket change set inner after _ _ ihinner ihafter =>
    have hentered : (masking.enter change set).mask.IsMask := change.isMask_apply set masking.mask
    -- the inner brackets have left the answer of this one on top
    have hsaved : ((masking.enter change set).run inner).saved = masking.mask :: masking.saved :=
      (ihinner hentered).2
    have hleft := Masking.leave_of_saved hsaved hmask
    have hrun : masking.run (.enter change set :: (inner ++ .leave :: after)) =
        (((masking.enter change set).run inner).leave).run after :=
      Masking.run_append (masking.enter change set) inner (.leave :: after)
    rw [hrun, hleft]
    exact ihafter hmask

/-- Every bracket in such a sequence has its end, with such a sequence inside. -/
theorem exists_leave {steps : List MaskStep} (h : WellNested steps) {before rest : List MaskStep}
    {change : MaskChange} {set : SignalSet} (hsteps : steps = before ++ .enter change set :: rest) :
    ∃ inner after, WellNested inner ∧ rest = inner ++ .leave :: after := by
  induction h generalizing before rest with
  | nil => simp at hsteps
  | make request _ ih =>
    cases before with
    | nil => cases hsteps
    | cons step before => exact ih (List.cons.inj hsteps).2
  | @bracket other _ inner after hinner _ ihinner ihafter =>
    cases before with
    | nil =>
      obtain ⟨-, rfl⟩ := List.cons.inj hsteps
      exact ⟨inner, after, hinner, rfl⟩
    | cons step before =>
      have hrest : inner ++ .leave :: after = before ++ .enter change set :: rest :=
        (List.cons.inj hsteps).2
      rcases List.append_eq_append_iff.1 hrest with ⟨middle, hbefore, hmiddle⟩ | ⟨middle, hi, hm⟩
      · -- it stands behind the end of this one
        cases middle with
        | nil => cases hmiddle
        | cons step middle => exact ihafter (List.cons.inj hmiddle).2
      · -- it stands inside this one
        cases middle with
        | nil => cases hm
        | cons step middle =>
          obtain ⟨rfl, rfl⟩ := List.cons.inj hm
          obtain ⟨inside, behind, hinside, rfl⟩ := ihinner hi
          exact ⟨inside, behind ++ .leave :: after, hinside, by simp⟩

end WellNested

/-! ## What mask changes promise -/

/-- The masks that a process can come to from a mask, by any changes with any sets. -/
def Reached : SignalSet → SignalSet → Prop :=
  Relation.ReflTransGen fun mask next =>
    ∃ (change : MaskChange) (set : SignalSet), (change.call set mask).2 = next

theorem Reached.isMask {start mask : SignalSet} (h : Reached start mask) (hstart : start.IsMask) :
    mask.IsMask := by
  cases h with
  | refl => exact hstart
  | tail _ hstep =>
    obtain ⟨change, set, rfl⟩ := hstep
    exact change.isMask_apply set _

/-- Whether a set that was asked for is to have a signal. -/
def SetRequest.Wants (signal : Signal) : SetRequest → Prop
  | .empty => False
  | .full => signal.isNameable = true
  | .single wanted => signal = wanted

theorem SetRequest.has_of_result {request : SetRequest} {set : SignalSet}
    (h : request.result = .ok set) (signal : Signal) :
    set.has signal = true ↔ request.Wants signal := by
  cases request with
  | empty =>
    cases h
    simp [Wants]
  | full =>
    cases h
    rw [SignalSet.has_full, Wants]
  | single wanted =>
    obtain ⟨hnameable, rfl⟩ := SignalSet.single_eq_ok_iff.1 h
    rw [SignalSet.has_bit (Signal.inRange_of_isNameable hnameable), decide_eq_true_iff, Wants]

theorem SetRequest.result_eq_error_iff {request : SetRequest} {errno : Errno} :
    request.result = .error errno ↔
      ∃ signal, request = .single signal ∧ signal.isNameable = false ∧
        errno = .invalidArgument := by
  cases request with
  | empty => simp [result]
  | full => simp [result]
  | single signal =>
    constructor
    · intro h
      exact ⟨signal, rfl, SignalSet.single_eq_error_iff.1 h⟩
    · rintro ⟨_, hsame, hrefused⟩
      cases hsame
      exact SignalSet.single_eq_error_iff.2 hrefused

/-- What the calls promise to a process that begins with a mask. -/
structure Masking.Promises (start : SignalSet) : Prop where
  /-- A call answers the mask before. -/
  answers : ∀ mask, Reached start mask → ∀ change set, (MaskChange.call change set mask).1 = mask
  blocks : ∀ mask, Reached start mask → ∀ set signal,
    (MaskChange.block.call set mask).2.has signal = true ↔
      (mask.has signal = true ∨ set.has signal = true) ∧ signal ≠ .kill ∧ signal ≠ .stop
  unblocks : ∀ mask, Reached start mask → ∀ set signal,
    (MaskChange.unblock.call set mask).2.has signal = true ↔
      (mask.has signal = true ∧ set.has signal = false) ∧ signal ≠ .kill ∧ signal ≠ .stop
  replaces : ∀ mask, Reached start mask → ∀ set signal,
    (MaskChange.replace.call set mask).2.has signal = true ↔
      set.has signal = true ∧ signal ≠ .kill ∧ signal ≠ .stop
  /-- Brackets in their order leave the mask as it was, and the answers that are kept for others. -/
  restores : ∀ steps, WellNested steps → ∀ masking : Masking, Reached start masking.mask →
    (masking.run steps).mask = masking.mask ∧ (masking.run steps).saved = masking.saved
  /-- Each of them has its end among them, and the mask there is the mask at its start. -/
  ends : ∀ before change set rest, WellNested (before ++ .enter change set :: rest) →
    ∃ inner after, WellNested inner ∧ rest = inner ++ .leave :: after ∧
      ∀ masking : Masking, Reached start masking.mask →
        (masking.run (before ++ .enter change set :: (inner ++ [.leave]))).mask =
          (masking.run before).mask
  /-- The supervisor of a foreground command opens such brackets, one around the creation of its
  child and one around the report of what was held back, -/
  opens : ∀ {World File Place : Type} (host : Host World File Place) command guard result
    (shell : Supervisor World File Place),
    let (answer, mask) := MaskChange.block.call (.bit .child) shell.attributes.mask
    Supervisor.step host command (.guarded guard) shell =
        (.blocked guard answer, shell.withMask mask) ∧
      (shell.reaperInstalled = true →
        Supervisor.step host command (.cleared guard result) shell =
          (.reporting guard answer result, shell.withMask mask))
  /-- and closes them with the answers. -/
  closes : ∀ {World File Place : Type} (host : Host World File Place) command guard answer pid error
    result (shell : Supervisor World File Place),
    let mask := (MaskChange.replace.call answer shell.attributes.mask).2
    Supervisor.step host command (.registered guard answer pid) shell =
        (.waiting guard pid, shell.withMask mask) ∧
      Supervisor.step host command (.rejected guard answer error) shell =
        (.leaving guard (.error error), shell.withMask mask) ∧
      Supervisor.step host command (.reported guard answer result) shell =
        (.leaving guard result, shell.withMask mask)
  /-- A set that is made has the members that were asked for, and the mask stays as it is. -/
  makes : ∀ (masking : Masking) request set, (masking.make request).1 = .ok set →
    (∀ signal, set.has signal = true ↔ request.Wants signal) ∧
      (masking.make request).2 = { masking with made := set :: masking.made }
  /-- Only a set for one signal can be refused, if no program may name the signal. -/
  refuses : ∀ (masking : Masking) request errno, (masking.make request).1 = .error errno ↔
    ∃ signal, request = .single signal ∧ signal.isNameable = false ∧ errno = .invalidArgument
  /-- Then the mask and all sets stay as they are. -/
  fails : ∀ (masking : Masking) request errno, (masking.make request).1 = .error errno →
    (masking.make request).2 = masking

/-- **Mask changes can be bracketed.** A process begins with any mask that it can have. Then every
call answers the mask before, and changes it as asked but for the two signals that cannot be
refused; and in every sequence of brackets the mask at the end of each one is the mask at its start,
whatever sets are used inside. -/
theorem Masking.brackets_restore {start : SignalSet} (hstart : start.IsMask) :
    Masking.Promises start where
  answers := fun _ _ _ _ => rfl
  blocks := fun mask _ set signal => MaskChange.block.has_apply_iff set mask signal
  unblocks := fun mask _ set signal => MaskChange.unblock.has_apply_iff set mask signal
  replaces := fun mask _ set signal => MaskChange.replace.has_apply_iff set mask signal
  restores := fun _ hnested _ hreached => hnested.run_restores (hreached.isMask hstart)
  ends := by
    intro before change set rest hnested
    rcases hnested.exists_leave rfl with ⟨inner, after, hinner, rfl⟩
    refine ⟨inner, after, hinner, rfl, ?_⟩
    intro masking hreached
    -- What comes before need not be well nested, as long as it leaves a mask.
    have hmask := Masking.isMask_run (hreached.isMask hstart) before
    rw [Masking.run_append]
    exact ((WellNested.bracket change set hinner .nil).run_restores hmask).1
  opens := fun _ _ _ _ _ => ⟨rfl, fun hinstalled => if_pos hinstalled⟩
  closes := fun _ _ _ _ _ _ _ _ => ⟨rfl, rfl, rfl⟩
  makes := by
    intro masking request set h
    unfold Masking.make at h ⊢
    split at h
    · next hresult =>
      cases h
      exact ⟨SetRequest.has_of_result hresult, rfl⟩
    · cases h
  refuses := by
    intro masking request errno
    rw [← SetRequest.result_eq_error_iff]
    unfold Masking.make
    split <;> simp_all
  fails := fun _ _ _ h => Masking.make_of_error h

/-- The signal for ended children is let through inside a bracket with the full set, which is inside
a bracket that blocks it; a set for a signal of the thread library is refused on the way. -/
def sampleBrackets : List MaskStep :=
  [.enter .block (.bit .child), .make (.single ⟨32⟩), .enter .replace .full,
    .enter .unblock (.bit .child), .leave, .leave, .leave]

/-- The innermost mask of the sample is the full set but for three signals, and the mask at the end
is the one at the start. -/
theorem Masking.brackets_restore_sample :
    (SignalSet.bit .interrupt).IsMask ∧ WellNested sampleBrackets ∧
      (({ mask := .bit .interrupt } : Masking).run (sampleBrackets.take 4)).mask =
        .full \ (.bit .child ∪ .bit .kill ∪ .bit .stop) ∧
      (({ mask := .bit .interrupt } : Masking).run sampleBrackets).mask = .bit .interrupt := by
  have hmask : (SignalSet.bit .interrupt).IsMask := by decide
  have hnested : WellNested sampleBrackets :=
    .bracket .block _ (.make _ (.bracket .replace .full (.bracket .unblock _ .nil .nil) .nil)) .nil
  have hreached : Reached (.bit .interrupt) (.bit .interrupt) := .refl
  have hrestored := (Masking.brackets_restore hmask).restores _ hnested
    { mask := .bit .interrupt } hreached
  exact ⟨hmask, hnested, by decide, hrestored.1⟩

end JobShell
