import JobShell.File.Path

/-!
# JobShell.File.Edit — changes to the tree by path

Every operation fails with the number that the kernel would leave behind and changes nothing then.
Paths are taken relative to a directory. To change the entries of a directory takes the permission
to write to it; nothing new is made in a directory that has been removed.
-/

namespace JobShell.FileTree

/-- Fails unless names can be added to a directory. -/
def requireRoom (tree : FileTree) (directory : Inode) : Except Errno Unit :=
  if tree.isRemoved directory then .error .noEntry else tree.require directory .write

/-- The directory and the name where something new can be made that is no directory itself, so that
its name has no slash behind it. -/
def vacancy (tree : FileTree) (directory : Inode) (path : Bytes) :
    Except Errno (Inode × Bytes) := do
  match ← tree.locate directory (Path.trim path) .entry with
  | .found _ => throw .alreadyExists
  | .missing parent name =>
    if Path.endsInSlash path then throw .noEntry
    tree.requireRoom parent
    return (parent, name)

/-- Makes a directory. -/
def makeDirectory (tree : FileTree) (directory : Inode) (path : Bytes) (mode : Nat) :
    Except Errno FileTree := do
  let (parent, name) ← tree.vacancy directory (Path.trim path)
  return (tree.create parent name (.directory mode parent [])).2

/-- Makes a link that leads to a target, which need not exist. -/
def makeLink (tree : FileTree) (directory : Inode) (path target : Bytes) :
    Except Errno FileTree := do
  let (parent, name) ← tree.vacancy directory path
  return (tree.create parent name (.link target)).2

/-- Gives a file that is no directory a second name. -/
def addName (tree : FileTree) (directory : Inode) (source path : Bytes) :
    Except Errno FileTree := do
  let inode ← tree.find directory source .entry
  let (parent, name) ← tree.vacancy directory path
  if tree.isDirectory inode then throw .notPermitted
  return tree.link parent name inode

/-- The directory that holds the last name of a path, and that name. -/
def holder (tree : FileTree) (directory : Inode) (path : Bytes) :
    Except Errno (Inode × Bytes) := do
  match (Path.names path).getLast? with
  | none => throw .busy
  | some name =>
    let before := (Path.names path).dropLast
    let start := if Path.isAbsolute path then root else directory
    match ← tree.walk .target maxLinks start before with
    | .found parent =>
      if !tree.isDirectory parent then throw .notDirectory
      return (parent, name)
    | .missing .. => throw .noEntry

/-- Takes away the name of anything but a directory. A slash behind the name makes no link be
followed. -/
def removeFile (tree : FileTree) (directory : Inode) (path : Bytes) : Except Errno FileTree := do
  let inode ← tree.find directory (Path.trim path) .entry
  let (parent, name) ← tree.holder directory (Path.trim path)
  tree.require parent .write
  if tree.isDirectory inode then throw .isDirectory
  if Path.endsInSlash path then throw .notDirectory
  return tree.unlink parent name

/-- Takes away an empty directory. -/
def removeDirectory (tree : FileTree) (directory : Inode) (path : Bytes) :
    Except Errno FileTree := do
  let path := Path.trim path
  let inode ← tree.find directory path .entry
  let (parent, name) ← tree.holder directory path
  if name = selfName then throw .invalidArgument
  if name = parentName then throw .notEmpty
  tree.require parent .write
  if !tree.isDirectory inode then throw .notDirectory
  if !(tree.entries inode).isEmpty then throw .notEmpty
  return tree.unlink parent name

/-- Whether a directory is another one or is somewhere below it. -/
def isBelow (tree : FileTree) (directory above : Inode) : Bool :=
  climb tree.nodes.size directory
where
  /-- Goes up to the root. -/
  climb : Nat → Inode → Bool
    | 0, _ => false
    | height + 1, inode => inode = above || (inode != root && climb height (tree.parent inode))

/-- Fails unless a node may be moved into another directory: a directory is neither put below itself
nor, without the permission to change what is above it, under another parent. -/
def requireMovable (tree : FileTree) (inode parent newParent : Inode) : Except Errno Unit :=
  if !tree.isDirectory inode then .ok ()
  else if tree.isBelow newParent inode then .error .invalidArgument
  else if newParent = parent then .ok ()
  else tree.require inode .write

/-- Gives something another name. What had that name is replaced: a directory only by a directory,
and only if it is empty. -/
def rename (tree : FileTree) (directory : Inode) (source target : Bytes) :
    Except Errno FileTree := do
  -- a slash behind a name asks for a directory
  let hasSlash := Path.endsInSlash source || Path.endsInSlash target
  let source := Path.trim source
  let target := Path.trim target
  let (parent, name) ← tree.holder directory source
  let _ ← tree.holder directory target
  if name = selfName || name = parentName then throw .busy
  let inode ← tree.find directory source .entry
  if hasSlash && !tree.isDirectory inode then throw .notDirectory
  tree.require parent .write
  match ← tree.locate directory target .entry with
  | .missing newParent newName =>
    tree.requireRoom newParent
    tree.requireMovable inode parent newParent
    return (tree.unlink parent name).link newParent newName inode
  | .found existing =>
    let (newParent, newName) ← tree.holder directory target
    tree.require newParent .write
    if existing = inode then return tree
    tree.requireMovable inode parent newParent
    if tree.isDirectory inode && !tree.isDirectory existing then throw .notDirectory
    if !tree.isDirectory inode && tree.isDirectory existing then throw .isDirectory
    if !(tree.entries existing).isEmpty then throw .notEmpty
    return ((tree.unlink parent name).unlink newParent newName).link newParent newName inode

/-- Takes away all that is below a directory, which has a path, and answers what had to be left, by
its path, with the reason. A directory is left if anything below it is. -/
def clear : (depth : Nat) → Inode → (path : Bytes) → FileTree → List (Bytes × Errno) × FileTree
  | 0, _, path, tree => ([(path, .nameTooLong)], tree)
  | depth + 1, inode, path, tree =>
    let entries := tree.entries inode
    if !entries.isEmpty && !tree.allows inode .read then ([(path, .accessDenied)], tree)
    else
      entries.foldl
        (fun (left, tree) (name, entry) =>
          let below := Path.trim path ++ [slash] ++ name
          if !tree.allows inode .execute then (left ++ [(below, .accessDenied)], tree)
          else
            let (more, tree) := clear depth entry below tree
            if !more.isEmpty then (left ++ more, tree)
            else if !tree.allows inode .write then (left ++ [(below, .accessDenied)], tree)
            else (left, tree.unlink inode name))
        ([], tree)

/-- Takes away what a path leads to together with all that is below it, as far as possible, and
answers what had to be left. A directory that a link with a slash behind it leads to is emptied but
stays. -/
def removeAll (tree : FileTree) (directory : Inode) (path : Bytes) :
    Except Errno (List (Bytes × Errno) × FileTree) := do
  let inode ← tree.find directory path .entry
  let entry ← tree.find directory (Path.trim path) .entry
  let (parent, name) ← tree.holder directory (Path.trim path)
  let (left, tree) := clear (tree.nodes.size + 1) inode path tree
  if !left.isEmpty then return (left, tree)
  else if entry != inode then return ([(path, .notDirectory)], tree)
  else if !tree.allows parent .write then return ([(path, .accessDenied)], tree)
  else return ([], tree.unlink parent name)

/-- The node of a file that may be written to: it is made with the given permissions if it is
missing. -/
def touch (tree : FileTree) (directory : Inode) (path : Bytes) (mode : Nat) :
    Except Errno (Inode × FileTree) := do
  match ← tree.locate directory path .writable with
  | .found inode =>
    if tree.isDirectory inode then throw .isDirectory
    tree.require inode .write
    return (inode, tree)
  | .missing parent name =>
    tree.requireRoom parent
    return tree.create parent name (.file mode [])

/-- The node that a file is written to from its beginning, emptied if it existed. -/
def truncate (tree : FileTree) (directory : Inode) (path : Bytes) (mode : Nat) :
    Except Errno (Inode × FileTree) := do
  let (inode, emptied) ← tree.touch directory path mode
  -- a file that has just been made keeps the permissions that it was made with
  return (inode, if (tree.node? inode).isSome then emptied.setContent inode [] else emptied)

/-- Makes the directories along a path that are missing. -/
def makeDirectories (tree : FileTree) (directory : Inode) (names : List Bytes) :
    Except Errno (Inode × FileTree) :=
  names.foldlM
    (fun (here, tree) name =>
      match (tree.entries here).lookup name with
      | some inode => .ok (inode, tree)
      | none => do
        tree.requireRoom here
        return tree.create here name (.directory 0o755 here []))
    (directory, tree)

/-- Puts a node at a path below a directory, in place of what was there. Directories on the way are
made. -/
def install (tree : FileTree) (directory : Inode) (path : Bytes) (node : Inode → Node) :
    Except Errno FileTree :=
  match (Path.names path).getLast? with
  | none => .ok tree
  | some name => do
    let (parent, tree) ← tree.makeDirectories directory (Path.names path).dropLast
    match (tree.entries parent).lookup name with
    | some inode =>
      match tree.node? inode, node parent with
      | some (.directory ..), .directory mode _ _ => return tree.setMode inode mode
      | _, node => return tree.put inode node
    | none =>
      tree.requireRoom parent
      return (tree.create parent name (node parent)).2

end JobShell.FileTree
