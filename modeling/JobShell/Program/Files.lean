import JobShell.Program.Texts

/-!
# JobShell.Program.Files — programs that change and look at files
-/

namespace JobShell.Program

/-- Writes the path of the working directory. -/
def pwd : Job → Task Nat := withOptions "LP" fun job options => do
  if !options.operands.isEmpty then job.complain "ignoring non-option arguments"
  match (← get).tree.pathOf? job.directory with
  | some path => job.say (path ++ [10])
  | none => job.refuse "couldn't find directory entry in '..' with matching i-node"

/-- Whether a node is a link. -/
def isLink (tree : FileTree) (inode : Inode) : Bool :=
  match tree.node? inode with
  | some (.link _) => true
  | _ => false

/-- Makes files that are missing. -/
def touch : Job → Task Nat := withOptions "camf" fun job options => do
  if options.operands.isEmpty then job.misused "missing file operand"
  else
    Job.forEach options.operands fun path => do
      let tree := (← get).tree
      if (tree.find job.directory path).toOption.isSome then return 0
      else if options.has 'c' then return 0
      else
        let mode := Machine.Storage.newMode job.attributes.place 0o666
        match tree.touch job.directory path mode with
        | .ok (_, tree) =>
          modify ({ · with tree })
          return 0
        | .error errno =>
          match decide (errno = .isDirectory), tree.find job.directory path with
          -- the time of what is no file is set without opening it
          | true, .error missing => job.complainAbout "setting times of" path missing
          | _, _ => job.complainAbout "cannot touch" path errno
          return 1

/-- Whether an operand is a mode rather than an option: a minus can be the beginning of one. -/
def isMode (operand : Bytes) : Bool :=
  match operand with
  | 45 :: letter :: _ => (Text.utf8 "rwxst").contains letter
  | _ => operand.head? != some 45

/-- Who a change of a mode is for. -/
inductive Role where
  | owner
  | group
  | others
deriving DecidableEq, Repr

namespace Role

/-- How far the permissions of a class are to the left of those of others. -/
def shift : Role → Nat
  | owner => 6
  | group => 3
  | others => 0

/-- The permission that a letter stands for, for a class. -/
def bit (role : Role) (letter : UInt8) : Nat :=
  match letter, role with
  | 114, _ => 4 <<< role.shift
  | 119, _ => 2 <<< role.shift
  | 120, _ => 1 <<< role.shift
  | 115, owner => 0o4000
  | 115, group => 0o2000
  | 116, others => 0o1000
  | _, _ => 0

/-- The classes that letters name; without letters it is all of them. -/
def ofLetters (who : Bytes) : List Role :=
  let named (letter : UInt8) : Bool := who.isEmpty || who.contains 97 || who.contains letter
  (if named 117 then [owner] else []) ++ (if named 103 then [group] else [])
    ++ (if named 111 then [others] else [])

/-- All the permissions that letters stand for, for some classes. -/
def bits (classes : List Role) (letters : Bytes) : Nat :=
  classes.foldl
    (fun mode role => letters.foldl (fun mode letter => mode ||| role.bit letter) mode) 0

end Role

/-- Mode bits without some of them. -/
def without (mode bits : Nat) : Nat :=
  mode - (mode &&& bits)

/-- A mode that is changed as a text says: a number in base eight, or who, a sign and letters,
several times with commas between them. Without who, what the mask takes from new files stays as it
is. -/
def changedMode? (text : Bytes) (mask mode : Nat) : Option Nat :=
  match Text.numeral? 8 text with
  | some mode => if mode ≤ 0o7777 then some mode else none
  | none =>
    (text.splitOn 44).foldlM
      (fun mode change =>
        let who := change.takeWhile (Text.utf8 "ugoa").contains
        let classes := Role.ofLetters who
        let masked (bits : Nat) : Nat := if who.isEmpty then without bits mask else bits
        match change.dropWhile (Text.utf8 "ugoa").contains with
        | sign :: letters =>
          let bits := masked (Role.bits classes letters)
          if !letters.all (Text.utf8 "rwxst").contains then none
          else
            match sign with
            | 43 => some (mode ||| bits)
            | 45 => some (without mode bits)
            | 61 => some (without mode (masked (Role.bits classes (Text.utf8 "rwxst"))) ||| bits)
            | _ => none
        | [] => none)
      mode

/-- Changes permissions. -/
def chmod (job : Job) : Task Nat :=
  match job.operands with
  | [] => job.misused "missing operand"
  | [mode] => job.misused "missing operand after " (FileName.always mode)
  | mode :: paths =>
    let change := changedMode? mode job.attributes.place.creationMask
    if !isMode mode then job.misused "invalid option -- '" ((mode.drop 1).take 1) "'"
    else if (change 0).isNone then job.misused "invalid mode: " (FileName.always mode)
    else
      Job.forEach paths fun path => do
        let tree := (← get).tree
        match tree.find job.directory path with
        | .ok inode =>
          modify fun storage =>
            { storage with tree := tree.setMode inode ((change (tree.mode inode)).getD 0) }
          return 0
        | .error errno =>
          let entry := (tree.find job.directory path .entry).toOption
          if errno = .noEntry && entry.any (isLink tree) then
            job.complainOf "cannot operate on dangling symlink " (FileName.always path) ""
          else job.complainAbout "cannot access" path errno
          return 1

/-- The paths that lead to the directories along a path, the path itself last. -/
def alongPath (path : Bytes) : List Bytes :=
  let trimmed := Path.trim path
  let above := (List.range trimmed.length).filterMap fun length =>
    let begun := trimmed.take length
    if trimmed[length]? = some slash && !begun.isEmpty && !Path.endsInSlash begun then some begun
    else none
  above ++ [path]

/-- Makes the directories of several paths that are missing, until one cannot be made. -/
def makeAll (job : Job) (mode : Nat) : List Bytes → Task Nat
  | [] => return 0
  | path :: paths => do
    let tree := (← get).tree
    if (tree.find job.directory path).toOption.any tree.isDirectory then makeAll job mode paths
    else
      let attempt := "cannot create directory"
      match tree.makeDirectory job.directory path mode, tree.find job.directory path with
      | .ok tree, _ =>
        modify ({ · with tree })
        makeAll job mode paths
      | .error .alreadyExists, found =>
        -- something else is in the way
        match found, paths with
        | .ok _, _ :: _ => job.complainAbout attempt path .notDirectory
        | .error .tooManyLinks, [] => job.complainAbout "cannot stat" path .tooManyLinks
        | .error .tooManyLinks, _ => job.complainAbout attempt path .tooManyLinks
        | _, _ => job.complainAbout attempt path .alreadyExists
        return 1
      | .error errno, _ =>
        job.complainAbout attempt path errno
        return 1

/-- Makes directories, with those on the way if `-p` is given. -/
def mkdir : Job → Task Nat := withOptions "p" fun job options =>
  let mode := Machine.Storage.newMode job.attributes.place 0o777
  if options.operands.isEmpty then job.misused "missing operand"
  else
    Job.forEach options.operands fun path =>
      if options.has 'p' then makeAll job mode (alongPath path)
      else job.edit "cannot create directory" path (·.makeDirectory job.directory path mode)

/-- Removes empty directories. -/
def rmdir : Job → Task Nat := withOptions "" fun job options =>
  if options.operands.isEmpty then job.misused "missing operand"
  else
    Job.forEach options.operands fun path => do
      let tree := (← get).tree
      match tree.removeDirectory job.directory path with
      | .ok tree =>
        modify ({ · with tree })
        return 0
      | .error errno =>
        if errno = .notDirectory && isUnfollowed tree job.directory path then
          job.complainOf "failed to remove " (FileName.always path) ": Symbolic link not followed"
        else job.complainAbout "failed to remove" path errno
        return 1
where
  /-- Whether a path is that of a link with a slash behind it, which does not lead to a file. -/
  isUnfollowed (tree : FileTree) (directory : Inode) (path : Bytes) : Bool :=
    let leadsElsewhere :=
      match tree.find directory path with
      | .ok _ => true
      | .error errno => errno != .notDirectory
    let entry := (tree.find directory (Path.trim path) .entry).toOption
    Path.endsInSlash path && leadsElsewhere && entry.any (isLink tree)

/-- Removes one path. -/
def removeOne (job : Job) (recursive forced : Bool) (path : Bytes) : Task Nat := do
  let base := Path.baseName path
  let tree := (← get).tree
  let isUnimportant (errno : Errno) : Bool := forced && (errno = .noEntry || errno = .notDirectory)
  let found := (tree.find job.directory path .entry).toOption
  if recursive && found.isSome && (base = selfName || base = parentName) then
    job.complainOf "refusing to remove '.' or '..' directory: skipping " (FileName.always path) ""
    return 1
  let removed : Except Errno (List (Bytes × Errno) × FileTree) :=
    if !found.any tree.isDirectory then (tree.removeFile job.directory path).map ([], ·)
    else if recursive then tree.removeAll job.directory path
    else .error .isDirectory
  match removed with
  | .ok (left, tree) =>
    modify ({ · with tree })
    let complaints := left.filter fun (_, errno) => !isUnimportant errno
    for (path, errno) in complaints do job.complainAbout "cannot remove" path errno
    return if complaints.isEmpty then 0 else 1
  | .error errno =>
    if isUnimportant errno then return 0
    job.complainAbout "cannot remove" path errno
    return 1

/-- Removes files, and directories if `-r` is given; with `-f` a missing file is no failure. -/
def rm : Job → Task Nat := withOptions "rRfiv" fun job options =>
  if options.operands.isEmpty then
    if options.has 'f' then return 0 else job.misused "missing operand"
  else
    Job.forEach options.operands
      (removeOne job (options.has 'r' || options.has 'R') (options.has 'f'))

/-- Writes the names in directories, one a line, in the order of their bytes; hidden ones only if
`-a` or `-A` is given. Operands that are no directories come first. -/
def ls (job : Job) : Task Nat := withOptions "aA1d" run job 2
where
  /-- The names in a directory that are shown. -/
  listing (options : Options) (tree : FileTree) (inode : Inode) : Bytes :=
    let entries := (tree.entries inode).map (·.1)
    let names :=
      if options.has 'a' then [selfName, parentName] ++ entries
      else if options.has 'A' then entries
      else entries.filter fun name => name.head? != some 46
    (names.mergeSort precedes).flatMap (· ++ [10])
  /-- What an operand stands for: a directory that it leads to, or else what has its name. -/
  found (options : Options) (tree : FileTree) (directory : Inode) (path : Bytes) :
      Except Errno Inode :=
    let entry := tree.find directory path .entry
    match options.has 'd', tree.find directory path with
    | true, _ => entry
    | false, .ok inode => if tree.isDirectory inode then .ok inode else entry
    | false, .error errno =>
      if errno = .noEntry || errno = .tooManyLinks then entry else .error errno
  /-- Lists with given options. -/
  run (job : Job) (options : Options) : Task Nat := do
    let paths := if options.operands.isEmpty then [selfName] else options.operands
    let mut files := []
    let mut directories := []
    let mut code := 0
    for path in paths.mergeSort precedes do
      let tree := (← get).tree
      match found options tree job.directory path with
      | .error errno =>
        job.complainAbout "cannot access" path errno
        code := 2
      | .ok inode =>
        if tree.isDirectory inode && !options.has 'd' then
          match tree.require inode .read with
          | .ok () => directories := directories ++ [(path, inode)]
          | .error errno =>
            job.complainAbout "cannot open directory" path errno
            code := 2
        else files := files ++ [path]
    let tree := (← get).tree
    let sections := directories.map fun (path, inode) =>
      (if 1 < paths.length then path ++ Text.utf8 ":\n" else []) ++ listing options tree inode
    let first := files.flatMap (· ++ [10])
    let all := if first.isEmpty then sections else first :: sections
    return max code (← job.say ((all.intersperse [10]).flatten) 2)

end JobShell.Program
