import JobShell.Signal.Disposition

/-!
# JobShell.Signal.Scopes — a process that registers, drops and forgets

`Scopes` keeps the registrations of a process in numbered slots beside its dispositions, and counts
the signals that reached a function other than the reaper. A slot is empty once its registration
has been dropped or forgotten.
-/

namespace JobShell

/-- The place of one registration. -/
structure Slot where
  signal : Signal
  /-- The registration, until it is dropped or forgotten. -/
  held : Option Registration
deriving DecidableEq, Repr

/-- The dispositions of a process and the registrations that it holds. -/
structure Scopes where
  dispositions : Dispositions
  /-- The registrations in the order in which they were made. -/
  slots : List Slot := []
  /-- How often a function other than the reaper was called. -/
  delivered : Nat := 0

namespace Scopes

/-- Registers a behaviour for a signal in the next slot. -/
def register (scopes : Scopes) (signal : Signal) (behavior : Disposition) :
    Except RegistrationError Scopes := do
  let (registration, dispositions) ← Registration.register scopes.dispositions signal behavior
  return { scopes with dispositions, slots := scopes.slots ++ [⟨signal, some registration⟩] }

/-- The signal that a slot is about, whether or not its registration is still held. -/
def signal? (scopes : Scopes) (slot : Nat) : Option Signal :=
  scopes.slots[slot]?.map (·.signal)

/-- The registration that a slot holds. -/
def registration? (scopes : Scopes) (slot : Nat) : Option Registration :=
  scopes.slots[slot]?.bind (·.held)

/-- Forgets the registration of a slot, which leaves its behaviour in force. -/
def forget (scopes : Scopes) (slot : Nat) : Scopes :=
  { scopes with slots := scopes.slots.modify slot fun s => { s with held := none } }

/-- Drops the registration of a slot, which puts back what it replaced. -/
def drop (scopes : Scopes) (slot : Nat) : Scopes :=
  match scopes.registration? slot with
  | some registration =>
    { scopes.forget slot with dispositions := registration.drop scopes.dispositions }
  | none => scopes

/-- Raises a signal in the process, unless that would end or stop it; answers whether it did. -/
def raise (scopes : Scopes) (signal : Signal) : Bool × Scopes :=
  match scopes.dispositions.get? signal with
  | none | some .default => (false, scopes)
  | some .ignore | some (.handle .reaper) => (true, scopes)
  | some (.handle (.custom _)) => (true, { scopes with delivered := scopes.delivered + 1 })

end Scopes

end JobShell
