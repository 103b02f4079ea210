import JobShell.Signal.Basic
import JobShell.System.Failure

/-!
# JobShell.Signal.Disposition — what a signal does to a process

Every signal that a program may name has a disposition. A registration sets one and remembers the
one it replaced; dropping it puts that back, and forgetting it leaves the new one for good.
-/

namespace JobShell

/-- The functions that the shell installs for signals. -/
inductive Callback where
  /-- Collects children that have ended. -/
  | reaper
  /-- Any other function, by the place where it begins. -/
  | custom (entry : Nat := 0)
deriving DecidableEq, Repr

/-- What a signal does to a process. -/
inductive Disposition where
  | default
  | ignore
  | handle (callback : Callback)
deriving DecidableEq, Repr

/-- The dispositions of all signals of a process. -/
structure Dispositions where
  get : Signal → Disposition

namespace Dispositions

/-- Every signal has its default action. -/
def initial : Dispositions := ⟨fun _ => .default⟩

/-- The dispositions with one signal's changed. -/
def set (dispositions : Dispositions) (signal : Signal) (disposition : Disposition) :
    Dispositions :=
  ⟨fun other => if other = signal then disposition else dispositions.get other⟩

/-- The dispositions of the shell before it has done anything: broken pipes are ignored. -/
def atStart : Dispositions :=
  initial.set .brokenPipe .ignore

/-- The dispositions of a running shell: interrupts are ignored as well, and the reaper answers the
end of a child. -/
def ofShell : Dispositions :=
  (atStart.set .interrupt .ignore).set .child (.handle .reaper)

/-- What a program keeps when it becomes another one: functions of the old program are gone, so
signals that had one return to the default action. -/
def afterExec (dispositions : Dispositions) : Dispositions :=
  ⟨fun signal =>
    match dispositions.get signal with
    | .handle _ => .default
    | kept => kept⟩

/-- The disposition of a signal, for the numbers that have one. -/
def get? (dispositions : Dispositions) (signal : Signal) : Option Disposition :=
  if signal.isNameable then some (dispositions.get signal) else none

@[simp] theorem get_set_self (d : Dispositions) (signal : Signal) (new : Disposition) :
    (d.set signal new).get signal = new := by
  simp [set]

@[simp] theorem get_set_of_ne (d : Dispositions) {signal other : Signal} (new : Disposition)
    (h : other ≠ signal) : (d.set signal new).get other = d.get other := by
  simp [set, h]

end Dispositions

/-- A registration that can be undone: a signal and the disposition that was replaced. -/
structure Registration where
  signal : Signal
  replaced : Disposition
deriving DecidableEq, Repr

/-- Why a signal's disposition could not be set. -/
inductive RegistrationError where
  /-- The signal's action can never be changed; asking for it is a mistake of the program. -/
  | forbidden (signal : Signal)
  /-- The kernel refused. -/
  | refused (errno : Errno)
deriving DecidableEq, Repr

/-- The words of a registration that must never be tried. -/
def RegistrationError.message : RegistrationError → String
  | .forbidden signal => "the " ++ signal.describe ++ " signal action cannot be overriden"
  | .refused errno => errno.message

/-- The reason as a failure of the operation that wanted the registration. -/
def RegistrationError.failure : RegistrationError → Failure
  | .forbidden signal => .other (RegistrationError.message (.forbidden signal))
  | .refused errno => .os errno

namespace Registration

/-- Sets a signal's disposition and remembers the one before. -/
def register (dispositions : Dispositions) (signal : Signal) (behavior : Disposition) :
    Except RegistrationError (Registration × Dispositions) :=
  if signal = .kill || signal = .stop then .error (.forbidden signal)
  else if signal.isNameable then
    .ok (⟨signal, dispositions.get signal⟩, dispositions.set signal behavior)
  else .error (.refused .invalidArgument)

/-- Puts back the disposition that the registration replaced. -/
def drop (registration : Registration) (dispositions : Dispositions) : Dispositions :=
  dispositions.set registration.signal registration.replaced

end Registration

end JobShell
