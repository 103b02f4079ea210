import JobShell.Machine.Process

/-!
# JobShell.Machine.Run — a machine that runs

The process that goes on first has its turn first, and of several the one that was created first.
`Machine.host` offers the machine to a shell; from there on, time passes only while the shell waits.
-/

namespace JobShell

/-- A signal that comes again and again. -/
structure Timer where
  period : Nat
  /-- When it comes next. -/
  due : Nat
deriving DecidableEq, Repr

/-- Files, processes and a clock. -/
structure Machine where
  storage : Machine.Storage
  /-- The processes that have not ended, in the order in which they were created. -/
  processes : List Machine.Process := []
  /-- The time in microseconds. -/
  clock : Nat := 0
  /-- The number of the next process. -/
  nextPid : Nat := 1000
  /-- A signal that interrupts a waiting shell again and again. -/
  timer : Option Timer := none

namespace Machine

/-- How many turns may pass until something happens that the shell can notice. -/
def turnsPerEvent : Nat := 1000000

/-- The process that goes on first. -/
def earliest? : List Process → Option Process
  | [] => none
  | process :: rest =>
    match earliest? rest with
    | some other => some (if process.wake ≤ other.wake then process else other)
    | none => some process

/-- Whether the timer goes off before a time. -/
def dueTimer? (machine : Machine) (time : Nat) : Option Timer :=
  machine.timer.filter fun timer => timer.due ≤ time

/-- Lets processes have their turns until one ends or the timer goes off. -/
def next : (turns : Nat) → Machine → Event × Machine
  | 0, machine => (.alarm, machine)
  | turns + 1, machine =>
    match earliest? machine.processes with
    | none => (.alarm, machine)
    | some process =>
      match machine.dueTimer? process.wake with
      | some timer =>
        (.alarm,
          { machine with
            clock := max machine.clock timer.due
            timer := some { timer with due := timer.due + timer.period } })
      -- time jumps to the turn, and the turn itself takes none
      | none =>
        let clock := max machine.clock process.wake
        let others := machine.processes.filter (·.pid != process.pid)
        match process.turn (others.flatMap (·.openFiles)) machine.storage with
        | (.ended status, storage) =>
          (.ended process.pid status,
            { machine with
              storage
              clock
              processes := others })
        | (.paused duration work, storage) =>
          next turns
            { machine with
              storage
              clock
              processes := machine.processes.map fun other =>
                if other.pid = process.pid then { other with work, wake := clock + duration }
                else other }

/-- What a process of given attributes becomes when it calls a program. -/
def image (machine : Machine) (attributes : Attributes) (arguments : List Bytes) :
    Except Errno Program.Image :=
  let elsewhere := machine.processes.flatMap (·.openFiles)
  (Script.surroundings elsewhere attributes machine.storage).image arguments

/-- The work of a new child. -/
def workOf (machine : Machine) : Fate Handle Place → Work × Option Attributes
  | .fails message output => (.reports (Text.utf8 message) output, none)
  | .runs arguments attributes =>
    match machine.image attributes arguments with
    | .ok image => (.program image, some attributes)
    | .error _ => (.exits 1, none)

/-- Creates a process with a given fate. -/
def spawn (fate : Fate Handle Place) (machine : Machine) : Except Errno Pid × Machine :=
  let pid : Pid := ⟨Int32.ofNat machine.nextPid⟩
  let (work, attributes) := machine.workOf fate
  let bare : Attributes :=
    { descriptors := .empty, dispositions := .initial, place := ⟨FileTree.root, 0⟩ }
  let process : Process :=
    { pid, attributes := attributes.getD bare, work, wake := machine.clock }
  (.ok pid,
    { machine with processes := machine.processes ++ [process], nextPid := machine.nextPid + 1 })

/-- Where a process stands after it has changed its directory. -/
def enter (machine : Machine) (place : Place) (path : Bytes) : Except Errno Place :=
  (machine.storage.tree.enter place.directory path).map fun directory => { place with directory }

/-- Applies an operation on the storage to the machine. -/
def onStorage {α : Type} (operation : Storage → α × Storage) (machine : Machine) :
    α × Machine :=
  let (result, storage) := operation machine.storage
  (result, { machine with storage })

/-- What a shell needs, as this machine offers it. -/
def host : Host Machine Handle Place where
  openInput place path := onStorage (·.openInput place path)
  openOutput place path := onStorage (·.openOutput place path)
  enter := enter
  exec machine attributes arguments := (machine.image attributes arguments).map fun _ => ()
  spawn := spawn
  read handle count := onStorage (·.read handle count)
  writeResults machine := machine.storage.writeResults
  write handle bytes machine := { machine with storage := machine.storage.write handle bytes }
  next := next turnsPerEvent

end Machine

end JobShell
