/-!
# JobShell.Shell.Options — the command line of the shell itself

Two flags, each with a letter and a long name; letters can be grouped behind one dash. The last
flag decides. The first element of a command line is the program's name and is skipped.
-/

namespace JobShell

/-- What the program is asked to do. -/
inductive Action where
  | run
  | help
  | version
deriving DecidableEq, Repr

/-- Why a command line was refused. -/
inductive OptionError where
  /-- A long flag that does not exist, with its dashes. -/
  | unrecognized (element : String)
  /-- A letter that is no flag. -/
  | invalid (letter : Char)
  /-- Something that is no flag at all. -/
  | unexpected (element : String)
deriving DecidableEq, Repr

/-- What is wrong with the command line, in words. -/
def OptionError.message : OptionError → String
  | .unrecognized element => "unrecognized option '" ++ element ++ "'"
  | .invalid letter => "invalid option -- '" ++ String.ofList [letter] ++ "'"
  | .unexpected element => "unexpected argument '" ++ element ++ "'"

namespace Action

/-- The action of a flag's letter. -/
def ofLetter? : Char → Option Action
  | 'h' => some .help
  | 'V' => some .version
  | _ => none

/-- The action of a flag's long name. -/
def ofName? (name : List Char) : Option Action :=
  if name = ['h', 'e', 'l', 'p'] then some .help
  else if name = ['v', 'e', 'r', 's', 'i', 'o', 'n'] then some .version
  else none

/-- Goes through a group of letters; each flag replaces the action before it. -/
def readLetters (action : Action) : List Char → Except OptionError Action
  | [] => .ok action
  | letter :: letters =>
    match ofLetter? letter with
    | some chosen => readLetters chosen letters
    | none => .error (.invalid letter)

/-- Takes one element of the command line. -/
def readElement (action : Action) (element : String) : Except OptionError Action :=
  match element.toList with
  | '-' :: '-' :: name =>
    match ofName? name with
    | some chosen => .ok chosen
    | none => .error (.unrecognized element)
  | '-' :: letter :: letters => readLetters action (letter :: letters)
  | _ => .error (.unexpected element)

/-- Takes the elements of the command line in order. -/
def readElements (action : Action) : List String → Except OptionError Action
  | [] => .ok action
  | element :: elements =>
    match readElement action element with
    | .ok chosen => readElements chosen elements
    | .error error => .error error

/-- What a command line, with the program's name in front, asks for. -/
def ofArguments (arguments : List String) : Except OptionError Action :=
  readElements .run arguments.tail

end Action

end JobShell
