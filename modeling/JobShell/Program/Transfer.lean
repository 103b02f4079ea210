import JobShell.Program.Files

/-!
# JobShell.Program.Transfer — programs that give files another place

What is given a place comes first among the operands and the place comes last. A place that is a
directory means a place in it, under the name that the source has.
-/

namespace JobShell.Program

/-- The path that something with the name of a source gets: below the target if that is a
directory. -/
def destination (tree : FileTree) (job : Job) (source target : Bytes) : Bytes :=
  if (tree.find job.directory target).toOption.any tree.isDirectory then
    let above := Path.trim target
    (if Path.endsInSlash above then above else above ++ [slash]) ++ Path.baseName source
  else target

/-- Does something for each source and the target behind them, which has to be a directory if there
is more than one source. -/
def toTarget (job : Job) (operands : List Bytes) (action : Bytes → Bytes → Task Nat) :
    Task Nat := do
  match operands.getLast?, operands.dropLast with
  | none, _ => job.misused "missing file operand"
  | some source, [] =>
    job.misused "missing destination file operand after " (FileName.always source)
  | some target, sources =>
    let tree := (← get).tree
    let isDirectory := (tree.find job.directory target).toOption.any tree.isDirectory
    if 1 < sources.length && !isDirectory then
      job.complainOf "target " (FileName.always target)
        (if (tree.find job.directory target).toOption.isSome then ": Not a directory"
          else ": No such file or directory")
      return 1
    else
      Job.forEach sources fun source => do
        action source (destination (← get).tree job source target)

/-- Complains that two paths lead to the same file. -/
def sameFile (job : Job) (source path : Bytes) : Task Nat := do
  job.complainOf "" (FileName.always source ++ Text.utf8 " and " ++ FileName.always path)
    " are the same file"
  return 1

/-- Gives a file a second name, or makes a link that leads to it if `-s` is given; what had that
name is replaced if `-f` is given. -/
def ln : Job → Task Nat := withOptions "sfn" fun job options =>
  let operands :=
    match options.operands with
    | [source] => [source, selfName]
    | operands => operands
  toTarget job operands (make job (options.has 's') (options.has 'f'))
where
  /-- Whether a file that is to be replaced would be lost with nothing left to lead to. -/
  isItself (tree : FileTree) (job : Job) (last : LastName) (source path : Bytes)
      (existing : Inode) : Bool :=
    let place (path : Bytes) := (tree.holder job.directory (Path.trim path)).toOption
    (tree.find job.directory source last).toOption = some existing
      && (tree.nameCount existing ≤ 1 || place source = place path)
  /-- Makes one link. -/
  make (job : Job) (isSymbolic isForced : Bool) (source path : Bytes) : Task Nat := do
    let tree := (← get).tree
    let last : LastName := if isSymbolic then .target else .entry
    let make (tree : FileTree) : Except Errno FileTree :=
      if isSymbolic then tree.makeLink job.directory path source
      else tree.addName job.directory source path
    let finish : Except Errno FileTree → Task Nat
      | .ok tree => do
        modify ({ · with tree })
        return 0
      | .error errno => do
        let both (arrow : String) : Bytes :=
          FileName.always path ++ Text.utf8 arrow ++ FileName.always source
        let shown :=
          if isSymbolic then
            if errno = .nameTooLong || source.isEmpty then both " -> " else FileName.always path
          else if errno = .alreadyExists then FileName.always path
          else both " => "
        let kind := if isSymbolic then "symbolic" else "hard"
        job.complainOf ("failed to create " ++ kind ++ " link ") shown (": " ++ errno.description)
        return 1
    match isSymbolic, tree.find job.directory source .entry with
    | false, .error errno =>
      job.complainAbout "failed to access" source errno
      return 1
    | _, found =>
      if !isSymbolic && found.toOption.any tree.isDirectory then
        job.complainOf "" (FileName.asNeeded source) ": hard link not allowed for directory"
        return 1
      match isForced, make tree with
      | true, .error .alreadyExists =>
        match tree.find job.directory path .entry with
        | .error .noEntry => finish (.error .alreadyExists)
        | .error errno =>
          job.complainAbout "failed to access" path errno
          return 1
        | .ok existing =>
          if tree.isDirectory existing then
            job.complainOf "" (FileName.asNeeded path) ": cannot overwrite directory"
            return 1
          else if isItself tree job last source path existing then sameFile job source path
          else finish (tree.removeFile job.directory path >>= make)
      | _, made => finish made

/-- Why it cannot be told what a new name leads to; that it does not exist is no obstacle. -/
def obstacle? (found : Except Errno Inode) : Option Errno :=
  match found with
  | .ok _ => none
  | .error errno => if errno = .noEntry then none else some errno

/-- Copies a file. A new file gets the permissions of its source, as far as new files get any. -/
def cp : Job → Task Nat := withOptions "fpv" fun job options =>
  toTarget job options.operands fun source path => do
    let tree := (← get).tree
    match tree.find job.directory source, obstacle? (tree.find job.directory path) with
    | .error errno, _ =>
      job.complainAbout "cannot stat" source errno
      return 1
    | .ok inode, some errno =>
      if tree.isDirectory inode then
        job.complainOf "-r not specified; omitting directory " (FileName.always source) ""
      else job.complainAbout "cannot stat" path errno
      return 1
    | .ok inode, none =>
      if tree.isDirectory inode then
        job.complainOf "-r not specified; omitting directory " (FileName.always source) ""
        return 1
      else if (tree.find job.directory path).toOption = some inode then sameFile job source path
      else if isDangling tree job path then
        job.complainOf "not writing through dangling symlink " (FileName.always path) ""
        return 1
      else
        match tree.require inode .read with
        | .error errno =>
          job.complainAbout "cannot open" source errno
          return 1
        | .ok () => job.edit "cannot create regular file" path fun tree => do
          let mode := Machine.Storage.newMode job.attributes.place (tree.mode inode)
          let content := tree.content inode
          match tree.truncate job.directory path (mode &&& 0o777) with
          | .ok (copy, tree) => return tree.setContent copy content
          | .error errno =>
            -- a slash behind the name asks for a directory
            if errno = .isDirectory && Path.endsInSlash path then throw .notDirectory
            throw errno
where
  /-- Whether a path is that of a link that leads nowhere. -/
  isDangling (tree : FileTree) (job : Job) (path : Bytes) : Bool :=
    (tree.find job.directory path).toOption.isNone
      && (tree.find job.directory path .entry).toOption.any (isLink tree)

/-- Gives files and directories other names. -/
def mv : Job → Task Nat := withOptions "fnv" fun job options =>
  toTarget job options.operands fun source path => do
    let tree := (← get).tree
    let both := FileName.always source ++ Text.utf8 " to " ++ FileName.always path
    let found := tree.find job.directory path .entry
    match tree.find job.directory source .entry, obstacle? found with
    | .error errno, _ =>
      job.complainAbout "cannot stat" source errno
      return 1
    | .ok _, some errno =>
      job.complainAbout "cannot stat" path errno
      return 1
    | .ok inode, none =>
      if found.toOption = some inode then sameFile job source path
      else
        match tree.rename job.directory source path with
        | .ok tree =>
          modify ({ · with tree })
          return 0
        | .error errno =>
          let existing := found.toOption
          if existing.isSome && tree.isDirectory inode && !existing.any tree.isDirectory then
            job.complainOf "cannot overwrite non-directory "
              (FileName.always path ++ Text.utf8 " with directory " ++ FileName.always source) ""
          else if !tree.isDirectory inode && existing.any tree.isDirectory then
            job.complainOf "cannot overwrite directory "
              (FileName.always path ++ Text.utf8 " with non-directory") ""
          else if errno = .invalidArgument then
            job.complainOf "cannot move "
              (FileName.always source ++ Text.utf8 " to a subdirectory of itself, "
                ++ FileName.always path) ""
          else if errno = .notEmpty then job.complainAbout "cannot overwrite" path errno
          else job.complainOf "cannot move " both (": " ++ errno.description)
          return 1

end JobShell.Program
