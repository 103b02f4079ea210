import JobShell.Script.Condition
import JobShell.Script.Frame

/-!
# JobShell.Script.Builtin — the commands that a script carries out by itself

Most of these change the script's own state, which no program could do; the others are programs as
well, but a script has its own way to carry them out and to complain. A few are `special`: a mistake
in one of those ends the script.
-/

namespace JobShell.Script

/-- What a command of the script itself comes to. -/
inductive Reply where
  /-- The script goes on, with the command's status. -/
  | goesOn (frame : Frame)
  /-- The command made no sense. -/
  | refused (complaint : Bytes)
  | exits (code : Nat)
  | killed (signal : Signal)

/-- A command that a script carries out by itself. -/
structure Builtin where
  isSpecial : Bool := false
  run : Frame → Job → Task Reply

namespace Builtin

/-- The name that a job was called by. -/
def name (job : Job) : Bytes :=
  job.arguments.headD []

/-- Complains in the name of a command. -/
def complain (frame : Frame) (job : Job) (text : Bytes) : Task Unit :=
  frame.complain job (name job ++ Text.utf8 ": " ++ text)

/-- Writes the output of a command. -/
def utter (frame : Frame) (job : Job) (output : Bytes) : Task Reply := do
  match ← job.write Descriptors.standardOutput output with
  | .ok () => return .goesOn (frame.withStatus 0)
  | .error _ =>
    complain frame job (name job ++ Text.utf8 ": I/O error")
    return .goesOn (frame.withStatus 1)

/-- Does nothing but answer a status. -/
def answer (status : Nat) : Builtin where
  run frame _ := return .goesOn (frame.withStatus status)

/-- Writes the operands with a blank between them and a newline behind; escapes in them are
replaced. -/
def echo : Builtin where
  run frame job :=
    let hasFlag := job.operands.head? == some (Text.utf8 "-n")
    let operands := if hasFlag then job.operands.tail else job.operands
    let text := (operands.intersperse [32]).flatten
    let (output, ended) := Program.unescape false text.length text
    utter frame job (if hasFlag || ended then output else output ++ [10])

/-- Tests a condition. -/
def test : Builtin where
  run frame job := do
    let isBracket := (name job).head? == some 91
    if isBracket && (job.operands.getLast?.bind (·.head?)) != some 93 then
      return .refused (Text.utf8 "missing ]")
    let operands := if isBracket then job.operands.dropLast else job.operands
    match Condition.evaluate (← get).tree job.directory operands with
    | .ok truth => return .goesOn (frame.withStatus (if truth then 0 else 1))
    | .error complaint => return .refused complaint.message

/-- Writes the path of the working directory. -/
def pwd : Builtin where
  run frame job := do
    let path := (← get).tree.pathOf? job.directory
    utter frame job (path.getD [] ++ [10])

/-- Changes the working directory. -/
def cd : Builtin where
  run frame job := do
    let home := (frame.scope.assigned.lookup (Text.utf8 "HOME")).getD []
    let target := (job.operands.head?).getD home
    let tree := (← get).tree
    match tree.enter job.directory target with
    | .error _ => return .refused (Text.utf8 "can't cd to " ++ target)
    | .ok directory =>
      let place := { frame.attributes.place with directory }
      let moved := { frame with attributes := { frame.attributes with place } }
      return .goesOn (moved.withStatus 0)

/-- A number that a command takes. -/
def number? (operand : Bytes) : Option Nat :=
  (Text.numeral? 10 operand).filter (· < 0x80000000)

/-- The complaint about a number. -/
def illegalNumber (operand : Bytes) : Reply :=
  .refused (Text.utf8 "Illegal number: " ++ operand)

/-- Ends the script with a code, by default the status of the last command. -/
def exit : Builtin where
  isSpecial := true
  run frame job :=
    match job.operands with
    | [] => return .exits frame.scope.status
    | operand :: _ => return (number? operand).elim (illegalNumber operand) .exits

/-- The signal that a name or number means. -/
def signal? (text : Bytes) : Option Signal :=
  match Text.numeral? 10 text with
  | some number => if number < 65 then some ⟨Int32.ofNat number⟩ else none
  | none => (Text.ofUtf8? text).bind fun name => Signal.ofShortName? name.toUpper

/-- What `kill` is asked to do. -/
inductive KillCall where
  | send (signal : Signal) (targets : List Bytes)
  | badOption (letter : UInt8)
  | badSignal (name : Bytes)
deriving DecidableEq, Repr

/-- Reads the operands of `kill`. -/
def KillCall.ofOperands (operands : List Bytes) : KillCall :=
  match operands with
  | (45 :: name) :: rest =>
    match signal? name, name, rest with
    | some signal, _, _ => .send signal rest
    | none, [], _ => .send .terminate operands
    | none, [45], _ => .send .terminate rest
    | none, [115], signal :: targets =>
      (signal? signal).elim (.badSignal signal) (.send · targets)
    | none, 115 :: signal, _ => (signal? signal).elim (.badSignal signal) (.send · rest)
    | none, letter :: _, _ => .badOption letter
  | _ => .send .terminate operands

/-- Sends a signal. The script's own process is the only one that it can reach. -/
def kill : Builtin where
  run frame job :=
    match KillCall.ofOperands job.operands with
    | .badOption letter => return .refused (Text.utf8 "Illegal option -" ++ [letter])
    | .badSignal name => return .refused (Text.utf8 "invalid signal number or name: " ++ name)
    | .send _ [] => return .refused (Text.utf8 usage)
    | .send signal targets => send frame job signal (frame.withStatus 0) targets
where
  /-- How to call it. -/
  usage : String :=
    "Usage: kill [-s sigspec | -signum | -sigspec] [pid | job]... or\nkill -l [exitstatus]"
  /-- Sends the signal to each of several processes. -/
  send (frame : Frame) (job : Job) (signal : Signal) (after : Frame) : List Bytes → Task Reply
    | [] => return .goesOn after
    | target :: targets => do
      let digits := if target.head? = some 45 then target.tail else target
      match number? digits with
      | none => return illegalNumber digits
      | some process =>
        if target.head? = some 45 || process != frame.scope.process then
          complain frame job (Text.utf8 (Errno.noProcess.description ++ "\n"))
          send frame job signal (frame.withStatus 1) targets
        else if signal.isFatal && job.attributes.dispositions.get signal = .default then
          return .killed signal
        else send frame job signal after targets

/-- Takes arguments away from the front. -/
def shift : Builtin where
  isSpecial := true
  run frame job := do
    let operand := (job.operands.head?).getD [49]
    match number? operand with
    | none => return illegalNumber operand
    | some count =>
      let arguments := frame.scope.arguments
      if arguments.length ≤ count then return .refused (Text.utf8 "can't shift that many")
      let kept := arguments.take 1 ++ arguments.drop (count + 1)
      return .goesOn { frame with scope := { frame.scope with arguments := kept, status := 0 } }

/-- Sets an option by its letter; nothing if there is no such option. Most make no difference. -/
def option? (frame : Frame) (on : Bool) (letter : UInt8) : Option Frame :=
  match Char.ofNat letter.toNat with
  | 'e' => some { frame with endsOnFailure := on }
  | 'x' => some { frame with traces := on }
  | other => if "abCEfhIimnpsuVv".toList.contains other then some frame else none

/-- Sets options and arguments. -/
def setOptions : Builtin where
  isSpecial := true
  run frame job := return go (frame.withStatus 0) job.operands
where
  /-- Sets the arguments. -/
  withArguments (frame : Frame) (arguments : List Bytes) : Frame :=
    let all := frame.scope.arguments.take 1 ++ arguments
    { frame with scope := { frame.scope with arguments := all } }
  /-- Goes through the operands. -/
  go (frame : Frame) : List Bytes → Reply
    | [] => .goesOn frame
    | operand :: rest =>
      match operand with
      | [45, 45] => .goesOn (withArguments frame rest)
      | sign :: letters =>
        if sign = 45 || sign = 43 then
          let set : Except UInt8 Frame := letters.foldlM
            (fun frame letter =>
              ((option? frame (sign == 45) letter).map Except.ok).getD (.error letter))
            frame
          match set with
          | .ok frame => go frame rest
          | .error letter => .refused (Text.utf8 "Illegal option " ++ [sign, letter])
        else .goesOn (withArguments frame (operand :: rest))
      | [] => .goesOn (withArguments frame (operand :: rest))

/-- Leaves loops, or goes on with their next round. -/
def leaveLoops (goesOn : Bool) : Builtin where
  isSpecial := true
  run frame job := do
    let operand := (job.operands.head?).getD [49]
    match number? operand with
    | none | some 0 => return illegalNumber operand
    | some (count + 1) =>
      let outer := skip count (frame.withStatus 0)
      if !outer.isLooping then return .goesOn outer
      let there := outer.skipRound
      return .goesOn (if goesOn then there else { there with code := there.code.tail })
where
  /-- Leaves some loops as long as there is another one around them. -/
  skip : Nat → Frame → Frame
    | 0, frame => frame
    | count + 1, frame =>
      let there := frame.skipRound
      let outside := { there with code := there.code.tail }
      if outside.isLooping then skip count outside else frame

/-- Shows or sets the permissions that new files do not get. -/
def umask : Builtin where
  run frame job :=
    match job.operands with
    | [] =>
      let digits := Nat.toDigits 8 frame.attributes.place.creationMask
      let padded := List.replicate (4 - digits.length) '0' ++ digits
      utter frame job (Text.utf8 (String.ofList padded) ++ [10])
    | operand :: _ =>
      match Text.numeral? 8 operand with
      | none => return illegalNumber operand
      | some mask =>
        let place := { frame.attributes.place with creationMask := mask &&& 0o777 }
        let changed := { frame with attributes := { frame.attributes with place } }
        return .goesOn (changed.withStatus 0)

/-- Sets variables. -/
def assign : Builtin where
  isSpecial := true
  run frame job :=
    let scope := job.operands.foldl
      (fun (scope : Scope) operand =>
        match operand.dropWhile (· != 61) with
        | _ :: value => scope.assign (operand.takeWhile (· != 61)) value
        | [] => scope)
      frame.scope
    return .goesOn ({ frame with scope }.withStatus 0)

/-- Forgets variables. -/
def unset : Builtin where
  isSpecial := true
  run frame job :=
    let kept := frame.scope.assigned.filter fun entry => !job.operands.contains entry.1
    return .goesOn ({ frame with scope := { frame.scope with assigned := kept } }.withStatus 0)

/-- The commands that a script carries out by itself. -/
def all : List (String × Builtin) :=
  [(":", { answer 0 with isSpecial := true }), ("true", answer 0), ("false", answer 1),
    ("echo", echo), ("test", test), ("[", test), ("pwd", pwd), ("cd", cd), ("exit", exit),
    ("kill", kill), ("shift", shift), ("set", setOptions), ("break", leaveLoops false),
    ("continue", leaveLoops true), ("umask", umask), ("wait", answer 0), ("export", assign),
    ("readonly", assign), ("unset", unset)]

/-- The command of a name. -/
def ofName? (name : Bytes) : Option Builtin :=
  (Text.ofUtf8? name).bind fun name => all.lookup name

end Builtin

end JobShell.Script
