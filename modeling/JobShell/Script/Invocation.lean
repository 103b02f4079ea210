import JobShell.Script.Builtin

/-!
# JobShell.Script.Invocation — how `sh` is called

Options come first, then the file with the script and the arguments for it. Instead of a file there
may be the script itself, behind the option `-c`, or nothing, and then the script comes from
standard input.
-/

namespace JobShell.Script

/-- Where a script comes from. -/
inductive Source where
  | input
  | file (path : Bytes)
  | text (script : Bytes)
deriving DecidableEq, Repr

/-- How `sh` is called. -/
structure Invocation where
  source : Source
  /-- The script's name and its arguments. -/
  arguments : List Bytes
  endsOnFailure : Bool := false
  traces : Bool := false
deriving DecidableEq, Repr

/-- What is wrong with a call of `sh`. -/
inductive BadInvocation where
  | illegalOption (sign letter : UInt8)
  | noScript
  /-- The file with the script cannot be opened. -/
  | unreadable (path : Bytes) (errno : Errno)
deriving DecidableEq, Repr

/-- What is wrong, in words. -/
def BadInvocation.message : BadInvocation → Bytes
  | illegalOption sign letter => Text.utf8 "Illegal option " ++ [sign, letter]
  | noScript => Text.utf8 "-c requires an argument"
  | unreadable path errno =>
    let isMissing := errno = .noEntry || errno = .notDirectory
    let reason := if isMissing then "No such file" else errno.description
    Text.utf8 "cannot open " ++ path ++ Text.utf8 (": " ++ reason)

namespace Invocation

/-- The options in front of the operands. -/
structure Flags where
  endsOnFailure : Bool := false
  traces : Bool := false
  fromText : Bool := false
  fromInput : Bool := false
deriving DecidableEq, Repr

/-- The flags with an option set or taken back; nothing if there is no such option. -/
def Flags.set? (flags : Flags) (on : Bool) (letter : UInt8) : Option Flags :=
  match Char.ofNat letter.toNat with
  | 'e' => some { flags with endsOnFailure := on }
  | 'x' => some { flags with traces := on }
  | 'c' => some { flags with fromText := true }
  | 's' => some { flags with fromInput := on }
  | other => if "abCEfhIilmnpuVv".toList.contains other then some flags else none

/-- Reads the options and answers them together with the operands behind. -/
def Flags.ofArguments (flags : Flags) : List Bytes → Except BadInvocation (Flags × List Bytes)
  | [] => .ok (flags, [])
  | argument :: rest =>
    match argument with
    | [45] | [45, 45] => .ok (flags, rest)
    | sign :: letters =>
      if sign = 45 || sign = 43 then do
        let flags ← letters.foldlM
          (fun (flags : Flags) letter =>
            match flags.set? (sign == 45) letter with
            | some flags => .ok flags
            | none => .error (.illegalOption sign letter))
          flags
        ofArguments flags rest
      else .ok (flags, argument :: rest)
    | [] => .ok (flags, argument :: rest)

/-- Reads the arguments of `sh`, its own name first. -/
def ofArguments (arguments : List Bytes) : Except BadInvocation Invocation := do
  let name := arguments.take 1
  let (flags, operands) ← Flags.ofArguments {} arguments.tail
  let call (source : Source) (arguments : List Bytes) : Invocation :=
    { source, arguments, endsOnFailure := flags.endsOnFailure, traces := flags.traces }
  if flags.fromText then
    match operands with
    | [] => throw .noScript
    | script :: rest => return call (.text script) (if rest.isEmpty then name else rest)
  else
    match operands, flags.fromInput with
    | path :: _, false => return call (.file path) operands
    | _, _ => return call .input (name ++ operands)

/-- The frame of a script that is about to begin. -/
def frame (call : Invocation) (attributes : Machine.Attributes) (process : Nat) (script : Bytes) :
    Frame where
  attributes
  scope := { arguments := call.arguments, process }
  source := Token.ofScript script
  lastLine := script.count Text.newline + 1
  endsOnFailure := call.endsOnFailure
  traces := call.traces
  yieldsToLast :=
    match call.source with
    | .text _ => true
    | _ => false

/-- Reads the script of a call; what cannot be read is taken as empty once it is open. -/
def read (call : Invocation) (job : Job) : Task (Except BadInvocation Bytes) := do
  match call.source with
  | .text script => return .ok script
  | .input => return .ok ((← job.readInput).toOption.getD [])
  | .file path =>
    match ← Task.ofStorage (·.openInput job.attributes.place path) with
    | .error errno => return .error (.unreadable path errno)
    | .ok handle => return .ok ((← Task.ofStorage (·.readAll handle)).toOption.getD [])

/-- Begins `sh`: the frame of its script, or the code that it ends with at once. -/
def begin (job : Job) (process : Nat) : Task (Except Nat Frame) := do
  if ((← get).tree.pathOf? job.directory).isNone then
    job.complain ("0: getcwd() failed: " ++ Errno.noEntry.description)
  match ofArguments job.arguments with
  | .error bad => refuse bad
  | .ok call =>
    match ← call.read job with
    | .error bad => refuse bad
    | .ok script => return .ok (call.frame job.attributes process script)
where
  /-- Ends with a complaint. -/
  refuse (bad : BadInvocation) : Task (Except Nat Frame) := do
    job.complainOf "0: " bad.message ""
    return .error 2

end Invocation

end JobShell.Script
