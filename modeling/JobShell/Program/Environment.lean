import JobShell.Program.Options

/-!
# JobShell.Program.Environment — becoming another program

`env` sets and forgets variables for a program and then becomes it. The first operand that sets no
variable names the program. All of this can stand in one argument behind the option `-S`, which is
what a file needs that names its interpreter: there only one argument is possible.
-/

namespace JobShell.Program

/-- What `env` is asked for. -/
inductive EnvironmentCall where
  /-- To become a program. -/
  | command (arguments : List Bytes)
  /-- To show the variables. -/
  | nothing
  | noArgument (letter : UInt8)
  | bad (misuse : Misuse)
deriving DecidableEq, Repr

/-- The pieces of a text between its blanks. -/
def blankSplit (text : Bytes) : List Bytes :=
  (text.splitBy fun a b => isBlank a == isBlank b).filter fun piece => !piece.any isBlank
where
  /-- Whether a byte is a blank. -/
  isBlank (byte : UInt8) : Bool := [9, 10, 11, 12, 13, 32].contains byte

/-- Reads the operands of `env`. -/
def EnvironmentCall.ofOperands : (fuel : Nat) → List Bytes → EnvironmentCall
  | 0, _ => .nothing
  | _, [] => .nothing
  | fuel + 1, operand :: rest =>
    match operand, rest with
    | [45], _ => ofOperands fuel rest
    | [45, 45], _ => settings rest
    | 45 :: 45 :: word, _ =>
      if word = Text.utf8 "ignore-environment" then ofOperands fuel rest
      else .bad (.unknownWord operand)
    | [45, 117], _ :: behind => ofOperands fuel behind
    | [45, 83], text :: behind => ofOperands fuel (blankSplit text ++ behind)
    | 45 :: 105 :: more, _ =>
      ofOperands fuel (if more.isEmpty then rest else (45 :: more) :: rest)
    | 45 :: 83 :: more@(_ :: _), _ => ofOperands fuel (blankSplit more ++ rest)
    | 45 :: 117 :: _ :: _, _ => ofOperands fuel rest
    | 45 :: letter :: _, _ =>
      if letter = 117 || letter = 83 then .noArgument letter else .bad (.unknownLetter letter)
    | _, _ => settings (operand :: rest)
where
  /-- Passes over what sets variables. -/
  settings (operands : List Bytes) : EnvironmentCall :=
    match operands.dropWhile (·.contains 61) with
    | [] => .nothing
    | arguments => .command arguments

/-- Ends `env` with a complaint about its options. -/
def refuseEnvironment (job : Job) : EnvironmentCall → Task Nat
  | .bad misuse => job.misunderstood misuse 125
  | .noArgument letter => job.misused "option requires an argument -- '" [letter] "'" 125
  | _ => return 0

/-- Ends `env` because a program cannot be run. -/
def cannotBecome (job : Job) (program : Bytes) (errno : Errno) : Task Nat := do
  job.complainOf "" (FileName.always program) (": " ++ errno.description)
  if errno != .noEntry then return 126
  if program.any blankSplit.isBlank then
    job.complain "use -[v]S to pass options in shebang lines"
  return 127

end JobShell.Program
