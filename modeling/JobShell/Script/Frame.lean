import JobShell.Program.Basic
import JobShell.Script.Expansion
import JobShell.Script.Reader

/-!
# JobShell.Script.Frame — a script on its way

A frame is what is left of a script: the instructions that are still to be done, the lines behind
them that have not been read, and the state that its commands work on. Compound statements put their
parts in front of the other instructions, so a frame that has to wait is just a smaller frame.
-/

namespace JobShell.Script

/-- Something that a script still has to do. A command is `tested` if its status only decides about
something: then its failure is no failure of the script. -/
inductive Instruction where
  | perform (tested : Bool) (statement : Statement)
  /-- A command has ended; its failure may end the script. -/
  | check (tested : Bool)
  /-- Goes on with one or the other, by the status of a condition. -/
  | choose (tested : Bool) (yes no : List Statement)
  /-- Goes on with a second statement if the status is the expected one. -/
  | follow (expected tested : Bool) (second : Statement)
  /-- Turns the status around. -/
  | invert
  /-- Begins a loop's next round. -/
  | round (expected tested : Bool) (condition body : List Statement)
  /-- Goes through a loop's body if its condition came out as expected; if not, the loop ends with
  the status of the last round. -/
  | body (expected tested : Bool) (condition body : List Statement) (status : Nat)
  /-- Goes through a body for each of the items that are left. -/
  | iterate (tested : Bool) (name : Bytes) (items : List Bytes) (body : List Statement)
  /-- Takes back the redirections of a compound command. -/
  | restore (descriptors : Descriptors Handle)

/-- A script on its way. -/
structure Frame where
  attributes : Machine.Attributes
  scope : Scope
  code : List Instruction := []
  /-- What has not been read yet. -/
  source : List Lexeme := []
  /-- The line after the last one. -/
  lastLine : Nat := 1
  /-- The line of the command that was begun last. -/
  line : Nat := 0
  /-- Whether the script ends when a command fails. -/
  endsOnFailure : Bool := false
  /-- Whether commands are shown before they are carried out. -/
  traces : Bool := false
  /-- Whether the last command takes the place of the script. -/
  yieldsToLast : Bool := false

namespace Frame

/-- The frame with another status. -/
def withStatus (frame : Frame) (status : Nat) : Frame :=
  { frame with scope := { frame.scope with status } }

/-- The frame with other open files. -/
def withDescriptors (frame : Frame) (descriptors : Descriptors Handle) : Frame :=
  { frame with attributes := { frame.attributes with descriptors } }

/-- The frame with instructions put in front. -/
def push (frame : Frame) (code : List Instruction) : Frame :=
  { frame with code := code ++ frame.code }

/-- The command that a frame carries out for some words with some open files. -/
def job (frame : Frame) (arguments : List Bytes) (descriptors : Descriptors Handle) : Job where
  arguments
  attributes := { frame.attributes with descriptors }

/-- Writes a complaint with the script's name and the line in front where a job writes its
complaints. -/
def complain (frame : Frame) (job : Job) (text : Bytes) : Task Unit := do
  let place := frame.scope.arguments.headD [] ++ Text.utf8 ": " ++ Text.numeral frame.line
  let _ ← job.write Descriptors.standardError (place ++ Text.utf8 ": " ++ text ++ [10])

/-- The instructions for statements. -/
def perform (tested : Bool) (statements : List Statement) : List Instruction :=
  statements.map (.perform tested)

/-- What a compound statement puts in front. -/
def parts (frame : Frame) (tested : Bool) : Statement → List Instruction
  | .choose condition yes no => perform true condition ++ [.choose tested yes no]
  | .loop expected condition body =>
    perform true condition ++ [.body expected tested condition body 0]
  | .forEach name items body =>
    let fields := (items.map (·.flatMap frame.scope.expand)).getD frame.scope.arguments.tail
    [.iterate tested name fields body]
  | .group body => perform tested body
  | .chain expected first second => [.perform true first, .follow expected tested second]
  | .negate statement => [.perform true statement, .invert]
  | .simple .. | .redirected .. => []

/-- Whether an instruction begins a round of a loop. -/
def isRound : Instruction → Bool
  | .round .. | .iterate .. => true
  | _ => false

/-- The frame with the instructions dropped that come before the next round of the innermost loop;
redirections in there are taken back. -/
def skipRound (frame : Frame) : Frame :=
  let dropped := frame.code.takeWhile (!isRound ·)
  let descriptors := dropped.foldl
    (fun descriptors instruction =>
      match instruction with
      | .restore before => before
      | _ => descriptors)
    frame.attributes.descriptors
  { frame.withDescriptors descriptors with code := frame.code.dropWhile (!isRound ·) }

/-- Whether a script is in a loop. -/
def isLooping (frame : Frame) : Bool :=
  frame.code.any isRound

/-- Whether nothing is left to do. -/
def isOver (frame : Frame) : Bool :=
  frame.code.all (fun | .check _ => true | _ => false)
    && frame.source.all (·.token == .newline)

end Frame

end JobShell.Script
