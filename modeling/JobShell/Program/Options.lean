import JobShell.Program.Basic

/-!
# JobShell.Program.Options — options among operands

An option is a dash and letters. Options may stand behind operands; after `--` there are none. A
lone dash is an operand.
-/

namespace JobShell

namespace Program

/-- What the arguments of a program come to. -/
structure Options where
  flags : Bytes := []
  operands : List Bytes := []
deriving DecidableEq, Repr

/-- Whether an option was given. -/
def Options.has (options : Options) (letter : Char) : Bool :=
  options.flags.contains letter.toNat.toUInt8

/-- Why arguments cannot be understood. -/
inductive Misuse where
  | unknownLetter (letter : UInt8)
  | unknownWord (word : Bytes)
deriving DecidableEq, Repr

/-- Reads arguments, given the letters that are options. -/
def Options.ofArguments (letters : String) (options : Options := {}) :
    List Bytes → Except Misuse Options
  | [] => .ok options
  | argument :: rest =>
    match argument with
    | [45, 45] => .ok { options with operands := options.operands ++ rest }
    | 45 :: 45 :: _ => .error (.unknownWord argument)
    | 45 :: first :: others =>
      let flags := first :: others
      match flags.find? fun flag => !(Text.utf8 letters).contains flag with
      | some letter => .error (.unknownLetter letter)
      | none => ofArguments letters { options with flags := options.flags ++ flags } rest
    | _ => ofArguments letters { options with operands := options.operands ++ [argument] } rest

end Program

/-- Ends a program that cannot understand its arguments. -/
def Job.misunderstood (job : Job) (misuse : Program.Misuse) (code : Nat := 1) : Task Nat :=
  match misuse with
  | .unknownLetter letter => job.misused "invalid option -- '" [letter] "'" code
  | .unknownWord word => job.misused "unrecognized option '" word "'" code

namespace Program

/-- Runs a program with its options, or ends it with a complaint about them. -/
def withOptions (letters : String) (run : Job → Options → Task Nat) (job : Job)
    (failure : Nat := 1) : Task Nat :=
  match Options.ofArguments letters {} job.operands with
  | .ok options => run job options
  | .error misuse => job.misunderstood misuse failure

end Program

end JobShell
