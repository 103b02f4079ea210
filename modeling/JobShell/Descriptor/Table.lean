import JobShell.System.Errno

/-!
# JobShell.Descriptor.Table — the open files of a process

A process names its open files by small numbers. The table says for each number which file stands
behind it and whether the file is closed when the process becomes another program. An opened file
takes the lowest free number; its number can be duplicated onto another one.

* `insert?` places an opened file, which closes on exec.
* `duplicate` puts a second name on a file; the second name never closes on exec.
* `afterExec` is what is left when the process becomes another program.
-/

namespace JobShell

/-- What stands behind one number. -/
structure Descriptor (File : Type) where
  file : File
  /-- Whether the number is freed when the process becomes another program. -/
  closeOnExec : Bool
deriving DecidableEq, Repr

/-- The open files of a process, by number. -/
structure Descriptors (File : Type) where
  get : Nat → Option (Descriptor File)
  /-- Numbers from here on are not given out. -/
  limit : Nat := 1024

namespace Descriptors

variable {File : Type}

/-- The number of standard input. -/
def standardInput : Nat := 0

/-- The number of standard output. -/
def standardOutput : Nat := 1

/-- The number of standard error. -/
def standardError : Nat := 2

/-- No file is open. -/
def empty : Descriptors File where
  get := fun _ => none

/-- The table with one number's entry replaced. -/
def set (table : Descriptors File) (number : Nat) (entry : Option (Descriptor File)) :
    Descriptors File :=
  { table with get := fun other => if other = number then entry else table.get other }

/-- The file behind a number. -/
def file? (table : Descriptors File) (number : Nat) : Option File :=
  (table.get number).map (·.file)

/-- The files behind all numbers. -/
def files (table : Descriptors File) : List File :=
  (List.range table.limit).filterMap table.file?

/-- The lowest number that is free, unless the limit is reached. -/
def lowestFree? (table : Descriptors File) : Option Nat :=
  (List.range table.limit).find? fun number => (table.get number).isNone

/-- Gives an opened file the lowest free number; it closes on exec. -/
def insert? (table : Descriptors File) (file : File) : Option (Nat × Descriptors File) :=
  table.lowestFree?.map fun number => (number, table.set number (some ⟨file, true⟩))

/-- Puts the file behind one number behind another one as well, in place of what was there. The
number itself is a target that changes nothing. -/
def duplicate (table : Descriptors File) (source target : Nat) :
    Except Errno (Descriptors File) :=
  match table.get source with
  | none => .error .badDescriptor
  | some entry =>
    if source = target then .ok table
    else if table.limit ≤ target then .error .badDescriptor
    else .ok (table.set target (some ⟨entry.file, false⟩))

/-- Lets the file behind a number stay open on exec. -/
def clearCloseOnExec (table : Descriptors File) (number : Nat) : Except Errno (Descriptors File) :=
  match table.get number with
  | none => .error .badDescriptor
  | some entry => .ok (table.set number (some { entry with closeOnExec := false }))

/-- Frees a number. -/
def close (table : Descriptors File) (number : Nat) : Except Errno (Descriptors File) :=
  match table.get number with
  | none => .error .badDescriptor
  | some _ => .ok (table.set number none)

/-- What is left open when the process becomes another program. -/
def afterExec (table : Descriptors File) : Descriptors File :=
  { table with get := fun number => (table.get number).filter fun entry => !entry.closeOnExec }

/-- An operation on a number that the caller gives as an integer: a negative one names no file. -/
def withNumber {α : Type} (number : Int) (operation : Nat → Except Errno α) : Except Errno α :=
  match number with
  | .ofNat number => operation number
  | .negSucc _ => .error .badDescriptor

@[simp] theorem get_set_self (table : Descriptors File) (number : Nat)
    (entry : Option (Descriptor File)) : (table.set number entry).get number = entry := by
  simp [set]

@[simp] theorem get_set_of_ne (table : Descriptors File) {number other : Nat}
    (entry : Option (Descriptor File)) (h : other ≠ number) :
    (table.set number entry).get other = table.get other := by
  simp [set, h]

/-- Freeing the number that an opened file was given leads back to the table before. -/
theorem set_none_of_insert? {table after : Descriptors File} {file : File} {number : Nat}
    (h : table.insert? file = some (number, after)) : after.set number none = table := by
  obtain ⟨free, hfree, hpair⟩ := Option.map_eq_some_iff.1 h
  obtain ⟨rfl, rfl⟩ := Prod.mk.inj hpair
  have hnone := List.find?_some hfree
  cases table with
  | mk get limit =>
    simp only [set, Descriptors.mk.injEq, and_true]
    funext other
    by_cases hother : other = free <;> simp_all

end Descriptors

end JobShell
