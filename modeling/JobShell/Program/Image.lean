import JobShell.Program.Catalogue

/-!
# JobShell.Program.Image — what a program name leads to

A name with a slash is a path; any other name is looked for in a fixed list of directories. A file
can be run if its owner may run it and nobody has it open for writing. If it begins with `#!`, the
rest of its first line names the program that runs it; a file that is nothing else is left to `sh`.
-/

namespace JobShell.Program

/-- A program of the machine together with its arguments, its own name first. -/
structure Image where
  name : String
  arguments : List Bytes
deriving DecidableEq, Repr

/-- The directories in which programs are looked for. -/
def searchPath : List String := ["/usr/local/bin", "/usr/bin", "/bin"]

/-- Where the program is that goes through scripts. -/
def shellPath : String := "/bin/sh"

/-- How many bytes of a file are looked at to find out what runs it. -/
def headLength : Nat := 256

/-- Arguments of this many bytes or more are refused. -/
def argumentLimit : Nat := 131072

/-- How many files in a row may each be run by the next one. -/
def maxInterpreters : Nat := 5

/-- Whether a byte is a blank or a tab. -/
def isGap (byte : UInt8) : Bool :=
  byte == 32 || byte == 9

/-- Whether a byte ends the path of an interpreter. -/
def endsPath (byte : UInt8) : Bool :=
  isGap byte || byte == 0

/-- The path of an interpreter and the argument behind it, if there is one: all the rest, blanks
included, up to a NUL. -/
def splitInterpreter (line : Bytes) : Bytes × List Bytes :=
  let line := ((line.reverse.dropWhile isGap).reverse).dropWhile isGap
  let argument :=
    match line.dropWhile (!endsPath ·) with
    | 0 :: _ => []
    | rest =>
      let argument := rest.dropWhile isGap
      if argument.isEmpty then [] else [argument.takeWhile (· != 0)]
  (line.takeWhile (!endsPath ·), argument)

/-- The interpreter that a file names in its first line. Without a newline the line may have been
cut off, so the path counts only if something behind it shows that it is whole. A file that is
shorter than what is looked at goes on with NULs. -/
def interpreter? (content : Bytes) : Option (Bytes × List Bytes) :=
  match (content ++ List.replicate headLength 0).take headLength with
  | 35 :: 33 :: rest =>
    let line := rest.takeWhile (· != Text.newline)
    if line.length < rest.length && !line.contains 0 then
      if line.all isGap then none else some (splitInterpreter line)
    else if (rest.dropWhile isGap).any endsPath then some (splitInterpreter rest.dropLast)
    else none
  | _ => none

/-- What decides about a file that is to be run. -/
structure Surroundings where
  tree : FileTree
  /-- Where relative paths start. -/
  directory : Inode
  /-- Whether somebody has a file open for writing. -/
  isBusy : Inode → Bool

namespace Surroundings

/-- The node of a file that may be run. -/
def program (around : Surroundings) (path : Bytes) : Except Errno Node := do
  -- nothing stands for the working directory here
  if path.isEmpty then throw .accessDenied
  let inode ← around.tree.find around.directory path
  around.tree.require inode .execute
  match around.tree.node? inode with
  | some (.program name) => return .program name
  | some (.file mode content) =>
    if around.isBusy inode then throw .programBusy
    return .file mode content
  | _ => throw .accessDenied

/-- What runs when a file is run: the file may name an interpreter, which may name one in turn. -/
def load (around : Surroundings) :
    (depth : Nat) → Node → (path : Bytes) → (arguments : List Bytes) → Except Errno Image
  | depth, node, path, arguments =>
    match node with
    | .program name => .ok ⟨name, arguments⟩
    | .file _ content =>
      match interpreter? content with
      | none => .error .notExecutable
      | some (interpreter, argument) => do
        let next ← around.program interpreter
        match depth with
        | 0 => throw .tooManyLinks
        | depth + 1 =>
          load around depth next interpreter (interpreter :: argument ++ path :: arguments.drop 1)
    | _ => .error .accessDenied

/-- What runs when a file is run; what is no program by itself is run by `sh`. -/
def loadOrInterpret (around : Surroundings) (path : Bytes) (arguments : List Bytes) :
    Except Errno Image :=
  let loaded : Except Errno Image := do
    let node ← around.program path
    if arguments.any fun argument => argumentLimit ≤ argument.length then throw .argumentsTooLong
    around.load maxInterpreters node path arguments
  match loaded with
  | .error errno =>
    if errno = .notExecutable then
      .ok ⟨"sh", Text.utf8 shellPath :: path :: arguments.drop 1⟩
    else .error errno
  | loaded => loaded

/-- Looks for a name in directories; a file that may not be run is remembered while the search goes
on. -/
def search (around : Surroundings) (name : Bytes) (arguments : List Bytes) (failure : Errno) :
    List String → Except Errno Image
  | [] => .error failure
  | folder :: folders =>
    match around.loadOrInterpret (Text.utf8 folder ++ [slash] ++ name) arguments with
    | .ok image => .ok image
    | .error errno =>
      if errno = .accessDenied then around.search name arguments .accessDenied folders
      else if errno = .noEntry || errno = .notDirectory then
        around.search name arguments failure folders
      else .error errno

/-- What runs when a program is called by name. -/
def image (around : Surroundings) (arguments : List Bytes) : Except Errno Image :=
  let name := arguments.headD []
  if name.isEmpty then .error .noEntry
  else if name.contains slash then around.loadOrInterpret name arguments
  else if maxNameLength < name.length then .error .nameTooLong
  else around.search name arguments .noEntry searchPath

end Surroundings

end JobShell.Program
