import JobShell.Proofs.Signal.Masks
import JobShell.Signal.Disposition
import Mathlib.Logic.Function.Basic

/-!
# JobShell.Proofs.Signal.Actions — what the kernel keeps for every signal

A disposition is the part of a signal's action that matters to the shell. The kernel keeps more with
it: flags, and the signals that are held back while a function runs. A registration is one call that
sets the whole action and is answered with the one before, and dropping it is the same call with
that answer.

* `SignalAction` is an action, and `SignalAction.ofBehavior` is the one that a registration sets.
* `SignalActions.call` is the call. The kernel keeps nothing that cannot be held back, so an answer
  that is set again is kept exactly as it was (`SignalActions.get_drop`).
* `SignalActions.register_dispositions` and `drop_dispositions` compare with `Registration.register`
  and `Registration.drop`, which know of dispositions only.
-/

namespace JobShell

/-- What the kernel is to do about a signal. -/
structure SignalAction where
  disposition : Disposition
  /-- How a function is called, apart from what the C library asks for itself. -/
  flags : BitVec 32
  /-- The signals that are held back while a function runs. -/
  held : SignalSet
deriving DecidableEq, Repr

namespace SignalAction

/-- Calls that the signal interrupts are begun again. -/
def restart : BitVec 32 :=
  0x10000000

/-- The action for a behaviour. No other function may cut into one that runs. -/
def ofBehavior (behavior : Disposition) : SignalAction where
  disposition := behavior
  flags := restart
  held :=
    match behavior with
    | .handle _ => .full
    | .default | .ignore => .empty

/-- The action as the kernel keeps it: signals that cannot be refused are never held back. -/
def kept (action : SignalAction) : SignalAction :=
  { action with held := action.held \ .unmaskable }

theorem kept_of_isMask {action : SignalAction} (h : action.held.IsMask) : action.kept = action := by
  unfold kept
  rw [h]

end SignalAction

/-- Whether the action of a signal can be changed. -/
def Signal.IsSettable (signal : Signal) : Prop :=
  signal.isNameable = true ∧ signal ≠ .kill ∧ signal ≠ .stop

instance (signal : Signal) : Decidable signal.IsSettable :=
  inferInstanceAs (Decidable (_ ∧ _))

namespace Registration

variable (dispositions : Dispositions) {signal other : Signal} (behavior : Disposition)

theorem register_of_settable (h : signal.IsSettable) :
    register dispositions signal behavior =
      .ok (⟨signal, dispositions.get signal⟩, dispositions.set signal behavior) := by
  have hforbidden : ¬(signal = .kill ∨ signal = .stop) := not_or.2 h.2
  unfold register
  rw [if_neg (by simpa using hforbidden), if_pos h.1]

/-- A registration fails exactly if the signal's action cannot be changed. For two signals it is not
even tried. -/
theorem register_of_not_settable (h : ¬signal.IsSettable) :
    register dispositions signal behavior =
      .error (if signal = .kill ∨ signal = .stop then .forbidden signal
        else .refused .invalidArgument) := by
  unfold register
  by_cases hforbidden : signal = .kill ∨ signal = .stop
  · rw [if_pos (by simpa using hforbidden), if_pos hforbidden]
  · -- No program may name the signal, as it is neither of the two.
    have hunnameable : ¬signal.isNameable = true := by
      intro hnameable
      exact h ⟨hnameable, not_or.1 hforbidden⟩
    rw [if_neg (by simpa using hforbidden), if_neg hforbidden, if_neg hunnameable]

theorem exists_register_eq_ok_iff :
    (∃ made, register dispositions signal behavior = .ok made) ↔ signal.IsSettable := by
  by_cases h : signal.IsSettable
  · rw [register_of_settable _ _ h]
    exact ⟨fun _ => h, fun _ => ⟨_, rfl⟩⟩
  · rw [register_of_not_settable _ _ h]
    exact ⟨nofun, fun hsettable => absurd hsettable h⟩

theorem register_eq_forbidden_iff :
    register dispositions signal behavior = .error (.forbidden other) ↔
      other = signal ∧ (signal = .kill ∨ signal = .stop) := by
  by_cases h : signal.IsSettable
  · rw [register_of_settable _ _ h]
    exact ⟨nofun, fun hforbidden => absurd hforbidden.2 (not_or.2 h.2)⟩
  · rw [register_of_not_settable _ _ h]
    split
    · next hforbidden => simp [hforbidden, eq_comm]
    · next hforbidden => exact ⟨nofun, fun h => absurd h.2 hforbidden⟩

end Registration

/-- The actions of all signals of a process. -/
structure SignalActions where
  get : Signal → SignalAction
  isMask : ∀ signal, (get signal).held.IsMask

/-- A registration with the whole action that it has replaced. -/
structure SignalHandler where
  signal : Signal
  original : SignalAction
deriving DecidableEq, Repr

namespace SignalActions

/-- The actions that are nothing more than dispositions. -/
def ofDispositions (dispositions : Dispositions) : SignalActions where
  get signal := ⟨dispositions.get signal, 0, .empty⟩
  isMask := by
    intro signal
    apply (SignalSet.isMask_iff _).2
    constructor
    · exact SignalSet.has_empty .kill
    · exact SignalSet.has_empty .stop

def set (actions : SignalActions) (signal : Signal) (action : SignalAction) : SignalActions where
  get := Function.update actions.get signal action.kept
  isMask := by
    intro other
    by_cases h : other = signal
    · rw [h, Function.update_self]
      exact SignalSet.isMask_sdiff action.held
    · rw [Function.update_of_ne h]
      exact actions.isMask other

/-- The call that changes the action of a signal. It answers the action before. -/
def call (actions : SignalActions) (signal : Signal) (action : SignalAction) :
    Except Errno SignalAction × SignalActions :=
  if signal.IsSettable then (.ok (actions.get signal), actions.set signal action)
  else (.error .invalidArgument, actions)

/-- Registers a behaviour for a signal. -/
def register (actions : SignalActions) (signal : Signal) (behavior : Disposition) :
    Except RegistrationError SignalHandler × SignalActions :=
  if signal = .kill ∨ signal = .stop then (.error (.forbidden signal), actions)
  else
    match actions.call signal (.ofBehavior behavior) with
    | (.ok original, actions) => (.ok ⟨signal, original⟩, actions)
    | (.error errno, actions) => (.error (.refused errno), actions)

/-- Sets again what a registration has replaced. A refusal is not noticed. -/
def drop (actions : SignalActions) (handler : SignalHandler) : SignalActions :=
  (actions.call handler.signal handler.original).2

/-- What the signals do to the process, without the rest of their actions. -/
def dispositions (actions : SignalActions) : Dispositions :=
  ⟨fun signal => (actions.get signal).disposition⟩

variable (actions : SignalActions) {signal other : Signal} (behavior : Disposition)

/-! ## Registrations -/

theorem register_of_settable (h : signal.IsSettable) :
    actions.register signal behavior =
      (.ok ⟨signal, actions.get signal⟩, actions.set signal (.ofBehavior behavior)) := by
  unfold register call
  rw [if_neg (not_or.2 h.2), if_pos h]

/-- A registration that fails has changed nothing. -/
theorem register_of_not_settable (h : ¬signal.IsSettable) :
    actions.register signal behavior =
      (.error (if signal = .kill ∨ signal = .stop then .forbidden signal
        else .refused .invalidArgument), actions) := by
  unfold register
  rw [call, if_neg h]
  split
  · rfl
  · rfl

theorem get_set_of_ne (h : other ≠ signal) (action : SignalAction) :
    (actions.set signal action).get other = actions.get other :=
  Function.update_of_ne h _ _

theorem get_call_of_ne (h : other ≠ signal) (action : SignalAction) :
    (actions.call signal action).2.get other = actions.get other := by
  unfold call
  split
  · exact actions.get_set_of_ne h action
  · rfl

/-- A registration that is dropped leaves exactly the action that it had been answered. -/
theorem get_drop (h : signal.IsSettable) {original : SignalAction}
    (hmask : original.held.IsMask) :
    (actions.drop ⟨signal, original⟩).get = Function.update actions.get signal original := by
  unfold drop call
  rw [if_pos h]
  -- The kernel takes nothing out of what it has answered.
  change Function.update actions.get signal original.kept = _
  rw [SignalAction.kept_of_isMask hmask]

/-! ## Dispositions -/

theorem dispositions_set (signal : Signal) (action : SignalAction) :
    (actions.set signal action).dispositions =
      actions.dispositions.set signal action.disposition := by
  unfold dispositions Dispositions.set
  congr 1
  funext other
  by_cases h : other = signal
  · subst h
    simp [set, SignalAction.kept]
  · simp [set, h]

/-- A registration does to the dispositions what `Registration.register` says. -/
theorem register_dispositions (signal : Signal) :
    Registration.register actions.dispositions signal behavior =
      (actions.register signal behavior).1.map fun handler =>
        (⟨handler.signal, handler.original.disposition⟩,
          (actions.register signal behavior).2.dispositions) := by
  by_cases h : signal.IsSettable
  · rw [actions.register_of_settable behavior h, Registration.register_of_settable _ _ h]
    change _ = Except.ok (_, (actions.set signal (.ofBehavior behavior)).dispositions)
    rw [actions.dispositions_set]
    rfl
  · rw [actions.register_of_not_settable behavior h, Registration.register_of_not_settable _ _ h]
    rfl

/-- Dropping does to the dispositions what `Registration.drop` says. -/
theorem drop_dispositions (h : signal.IsSettable) (original : SignalAction) :
    (actions.drop ⟨signal, original⟩).dispositions =
      Registration.drop ⟨signal, original.disposition⟩ actions.dispositions := by
  unfold drop call Registration.drop
  rw [if_pos h]
  exact actions.dispositions_set signal original

end SignalActions

end JobShell
