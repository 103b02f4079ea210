import JobShell.Child.Status
import JobShell.Program.Image
import JobShell.Script.Invocation

/-!
# JobShell.Script.Interpreter — going through scripts

A script that calls another one waits for it, so scripts on their way are a stack of frames, the
innermost first. `step` does one instruction of the innermost frame; `run` does steps until the
outermost script ends or one of them sleeps. Programs do all their work within one step.
-/

namespace JobShell.Script

/-- What beginning a program comes to. -/
inductive Started where
  | ended (status : WaitStatus)
  /-- It ends well after so many microseconds. -/
  | sleeps (duration : Nat)
  | script (frame : Frame)

/-- What a turn of a process comes to. -/
inductive Turn (Rest : Type) where
  | ended (status : WaitStatus)
  /-- It goes on with the rest after so many microseconds. -/
  | paused (duration : Nat) (rest : Rest)

/-- What one step comes to. -/
inductive Step where
  | goesOn (frames : List Frame)
  | pauses (duration : Nat) (frames : List Frame)
  | ended (status : WaitStatus)

/-- The status of a process that exits with a code. -/
def exited (code : Nat) : WaitStatus :=
  .ofExit (Int32.ofNat code)

/-- The command that a script itself becomes the program of. -/
def execName : Bytes := Text.utf8 "exec"

/-- How many programs in a row may each become the next one. -/
def maxReplacements : Nat := 100

/-- What decides about a program that a process with given files is about to become, while other
files are open elsewhere. -/
def surroundings (elsewhere : List Handle) (attributes : Machine.Attributes)
    (storage : Machine.Storage) : Program.Surroundings where
  tree := storage.tree
  directory := attributes.place.directory
  isBusy := storage.isWriter (attributes.descriptors.files ++ elsewhere)

/-- Enough fuel to read operands that may hold further ones. -/
def fuelForCall (operands : List Bytes) : Nat :=
  operands.length + operands.flatten.length + 1

/-- Begins a program. -/
def start (elsewhere : List Handle) (attributes : Machine.Attributes) (process : Nat) :
    (replacements : Nat) → Program.Image → Task Started
  | 0, _ => return .ended (.ofSignal .workLimit)
  | replacements + 1, image => do
    let job : Job := { arguments := image.arguments, attributes }
    match image.name with
    | "sleep" =>
      match ← Program.sleep job with
      | .ok duration => return .sleeps duration
      | .error code => return .ended (exited code)
    | "sh" =>
      match ← Invocation.begin job process with
      | .ok frame => return .script frame
      | .error code => return .ended (exited code)
    | "env" =>
      match Program.EnvironmentCall.ofOperands (fuelForCall job.operands) job.operands with
      | .command arguments =>
        match (surroundings elsewhere attributes (← get)).image arguments with
        | .ok image => start elsewhere attributes process replacements image
        | .error errno =>
          return .ended (exited (← Program.cannotBecome job (arguments.headD []) errno))
      | call => return .ended (exited (← Program.refuseEnvironment job call))
    | name =>
      match Program.catalogue.lookup name with
      | some run => return .ended (exited (← run job))
      | none => return .ended (exited 126)

/-- Begins a program; a signal that kills it is how it ends. -/
def launch (elsewhere : List Handle) (attributes : Machine.Attributes) (process : Nat)
    (image : Program.Image) : Task Started :=
  tryCatch (start elsewhere attributes process maxReplacements image) fun signal =>
    return .ended (.ofSignal signal)

namespace Frame

/-- Opens the file of a redirection: the table with it, or what to complain about. -/
def redirect (frame : Frame) (descriptors : Descriptors Handle) (redirect : Redirect) :
    Task (Except Bytes (Descriptors Handle)) := do
  let target := frame.scope.expandWhole redirect.target
  let place := frame.attributes.place
  let bound (handle : Handle) : Descriptors Handle :=
    descriptors.set redirect.descriptor (some ⟨handle, false⟩)
  let opened (attempt missing : String) : Except Errno Handle → Except Bytes (Descriptors Handle)
    | .ok handle => .ok (bound handle)
    | .error errno =>
      let isMissing := errno = .noEntry || errno = .notDirectory
      let reason := if isMissing then missing else errno.description
      .error (Text.utf8 (attempt ++ " ") ++ target ++ Text.utf8 (": " ++ reason))
  match redirect.kind with
  | .input =>
    return opened "cannot open" "No such file" (← Task.ofStorage (·.openInput place target))
  | .output =>
    return opened "cannot create" "Directory nonexistent"
      (← Task.ofStorage (·.openOutput place target 0o666))
  | .append =>
    return opened "cannot create" "Directory nonexistent"
      (← Task.ofStorage (·.openAppend place target))
  | .duplicate =>
    if target = [45] then return .ok (descriptors.set redirect.descriptor none)
    match (Text.numeral? 10 target).bind descriptors.file? with
    | some handle => return .ok (bound handle)
    | none =>
      return .error (target ++ Text.utf8 (": " ++ Errno.badDescriptor.description))

/-- Opens the files of several redirections. -/
def redirectAll (frame : Frame) (descriptors : Descriptors Handle) :
    List Redirect → Task (Except Bytes (Descriptors Handle))
  | [] => return .ok descriptors
  | first :: rest => do
    match ← frame.redirect descriptors first with
    | .ok descriptors => redirectAll frame descriptors rest
    | .error complaint => return .error complaint

/-- The frame with the assignments of a command made. -/
def assign (frame : Frame) (assignments : List (Bytes × Word)) : Frame :=
  let scope := assignments.foldl
    (fun (scope : Scope) (name, value) => scope.assign name (scope.expandWhole value)) frame.scope
  { frame with scope }

end Frame

/-- A script ends; the one that waits for it goes on with its status. -/
def finish (status : WaitStatus) : List Frame → Task Step
  | [] => return .ended status
  | frame :: below => do
    match status.exitCode?, status.signal? with
    | none, some signal =>
      let code := 128 + signal.number.toInt.toNat
      if signal != .interrupt && signal != .brokenPipe then
        let line := Text.utf8 (signal.summary ++ "\n")
        let job := frame.job [] frame.attributes.descriptors
        let _ ← job.write Descriptors.standardError line
      return .goesOn (frame.withStatus code :: below)
    | code, _ =>
      let code := (code.map (·.toInt.toNat)).getD 0
      return .goesOn (frame.withStatus code :: below)

/-- A command of a script has begun a program; the program takes the place of the script if it is
the last thing to do. -/
def after (frame : Frame) (below : List Frame) (replaces : Bool) : Started → Task Step
  | .ended status => finish status (if replaces then below else frame :: below)
  | .sleeps duration => return .pauses duration (frame.withStatus 0 :: below)
  | .script inner => return .goesOn (inner :: if replaces then below else frame :: below)

/-- Begins the program that a command of a script calls, or complains and answers the status of the
command. The complaint begins with the command if that is not the program itself. -/
def call (elsewhere : List Handle) (frame : Frame) (job : Job) (replaces : Bool)
    (command : Bytes := []) : Task (Except Nat Started) := do
  let name := job.arguments.headD []
  let subject := if command.isEmpty then name else command ++ Text.utf8 ": " ++ name
  match (surroundings elsewhere job.attributes (← get)).image job.arguments with
  | .error errno =>
    let isMissing := errno = .noEntry || errno = .notDirectory
    let reason := if isMissing then "not found" else errno.description
    frame.complain job (subject ++ Text.utf8 (": " ++ reason))
    let isUnknown := isMissing || errno = .tooManyLinks || errno = .nameTooLong
    return .error (if isUnknown then 127 else 126)
  | .ok image =>
    let process := frame.scope.process + (if replaces then 0 else 1)
    let inherited := { job.attributes with descriptors := job.attributes.descriptors.afterExec }
    return .ok (← launch elsewhere inherited process image)

/-- Carries out a command of given words, with its redirections done. -/
def carryOut (elsewhere : List Handle) (frame : Frame) (below : List Frame)
    (assignments : List (Bytes × Word)) (job : Job) : Task Step := do
  let name := job.arguments.headD []
  match job.arguments, Builtin.ofName? name with
  | [], _ => return .goesOn ((frame.assign assignments).withStatus 0 :: below)
  | _ :: operands, none =>
    if name = execName then
      if operands.isEmpty then
        let rebound := frame.withDescriptors job.attributes.descriptors
        return .goesOn (rebound.withStatus 0 :: below)
      match ← call elsewhere frame { job with arguments := operands } true execName with
      | .ok started => after { frame with code := [], source := [] } below true started
      | .error status => finish (exited status) below
    else if name.isEmpty then
      frame.complain job (Text.utf8 (": " ++ Errno.accessDenied.description))
      return .goesOn (frame.withStatus 127 :: below)
    else
      let replaces := frame.yieldsToLast && frame.isOver
      match ← call elsewhere frame job replaces with
      | .ok started => after frame below replaces started
      | .error status => return .goesOn (frame.withStatus status :: below)
  | _, some builtin =>
    let assigned := if builtin.isSpecial then frame.assign assignments else frame
    match ← builtin.run assigned job with
    | .goesOn next => return .goesOn (next :: below)
    | .refused complaint =>
      Builtin.complain frame job complaint
      if builtin.isSpecial then finish (exited 2) below
      else return .goesOn (frame.withStatus 2 :: below)
    | .exits code => finish (exited code) below
    | .killed signal => finish (.ofSignal signal) below

/-- Begins a simple command: its words are expanded, its redirections are done, and it is shown if
the script asks for that. -/
def beginSimple (elsewhere : List Handle) (frame : Frame) (below : List Frame) (command : Simple) :
    Task Step := do
  let arguments := command.words.flatMap frame.scope.expand
  let own := frame.job arguments frame.attributes.descriptors
  match ← frame.redirectAll frame.attributes.descriptors command.redirects with
  | .error complaint =>
    frame.complain own complaint
    let name := arguments.headD []
    if name = execName || (Builtin.ofName? name).any (·.isSpecial) then finish (exited 2) below
    else return .goesOn (frame.withStatus 2 :: below)
  | .ok descriptors =>
    if frame.traces then
      let assignments := command.assignments.map fun (name, value) =>
        name ++ [61] ++ frame.scope.expandWhole value
      let shown := ((assignments ++ arguments).intersperse [32]).flatten
      let _ ← own.write Descriptors.standardError (Text.utf8 "+ " ++ shown ++ [10])
    carryOut elsewhere frame below command.assignments (frame.job arguments descriptors)

/-- Begins a statement. -/
def begin (elsewhere : List Handle) (frame : Frame) (below : List Frame) (tested : Bool) :
    Statement → Task Step
  | .simple command =>
    let frame := { frame with line := command.line }
    beginSimple elsewhere (frame.push [.check tested]) below command
  | .redirected line redirects statement => do
    let frame := { frame with line }
    match ← frame.redirectAll frame.attributes.descriptors redirects with
    | .ok descriptors =>
      let code := [.perform tested statement, .restore frame.attributes.descriptors]
      return .goesOn ((frame.push code).withDescriptors descriptors :: below)
    | .error complaint =>
      frame.complain (frame.job [] frame.attributes.descriptors) complaint
      return .goesOn ((frame.push [.check tested]).withStatus 2 :: below)
  | statement =>
    match frame.parts tested statement with
    | [.iterate _ _ [] _] => return .goesOn (frame.withStatus 0 :: below)
    | code => return .goesOn (frame.push code :: below)

/-- Does one instruction of a frame. -/
def obey (elsewhere : List Handle) (frame : Frame) (below : List Frame)
    (instruction : Instruction) : Task Step :=
  let succeeded := frame.scope.status == 0
  let goOn (frame : Frame) (code : List Instruction) : Task Step :=
    return .goesOn (frame.push code :: below)
  match instruction with
  | .perform tested statement => begin elsewhere frame below tested statement
  | .check tested =>
    if frame.endsOnFailure && !tested && !succeeded then
      finish (exited frame.scope.status) below
    else goOn frame []
  | .choose tested yes no =>
    if succeeded then goOn frame (Frame.perform tested yes)
    else goOn (frame.withStatus 0) (Frame.perform tested no)
  | .follow expected tested second =>
    goOn frame (if succeeded == expected then [.perform tested second] else [])
  | .invert => goOn (frame.withStatus (if succeeded then 1 else 0)) []
  | .round expected tested condition body =>
    let decision := Instruction.body expected tested condition body frame.scope.status
    goOn frame (Frame.perform true condition ++ [decision])
  | .body expected tested condition body status =>
    if succeeded == expected then
      goOn frame (Frame.perform tested body ++ [.round expected tested condition body])
    else goOn (frame.withStatus status) []
  | .iterate _ _ [] _ => goOn frame []
  | .iterate tested name (item :: items) body =>
    goOn { frame with scope := frame.scope.assign name item }
      (Frame.perform tested body ++ [.iterate tested name items body])
  | .restore descriptors => goOn (frame.withDescriptors descriptors) []

/-- Goes on with the innermost of several scripts. -/
def step (elsewhere : List Handle) (frame : Frame) (below : List Frame) : Task Step :=
  let ordinary : Task Step :=
    match frame.code, frame.source with
    | instruction :: code, _ => obey elsewhere { frame with code } below instruction
    | [], [] => finish (exited frame.scope.status) below
    | [], source =>
      match Reader.line source with
      | .ok (statements, rest) =>
        let code := Frame.perform false statements
        return .goesOn ({ frame with code, source := rest } :: below)
      | .error mistake => do
        let line := (mistake.found.map (·.line)).getD frame.lastLine
        let job := frame.job [] frame.attributes.descriptors
        ({ frame with line } : Frame).complain job (Text.utf8 mistake.message)
        finish (exited 2) below
  tryCatch ordinary fun signal => finish (.ofSignal signal) below

/-- How long a script pauses that has done much without a pause, so that others get their turn. -/
def breather : Nat := 1000

/-- Goes on with scripts until one of them pauses or all have ended. -/
def run (elsewhere : List Handle) : (fuel : Nat) → List Frame → Task (Turn (List Frame))
  | 0, frames => return .paused breather frames
  | _, [] => return .ended (exited 0)
  | fuel + 1, frame :: below => do
    match ← step elsewhere frame below with
    | .goesOn frames => run elsewhere fuel frames
    | .pauses duration frames => return .paused duration frames
    | .ended status => return .ended status

end JobShell.Script
