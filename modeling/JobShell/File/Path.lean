import JobShell.File.Tree

/-!
# JobShell.File.Path — finding a node by its path

A path is cut at its slashes into names. Each name is looked up in the directory reached so far,
which takes the permission to execute it; `.` stays there, `..` goes to the directory that it is in,
and a link is replaced by the names of its target. A slash at the end is an empty name behind the
last one: what has been reached there must be a directory. At most forty links are followed, which
makes the walk end: every step either follows a link or leaves fewer names.

A walk whose last name is missing still knows where a file of that name would be. A walk that is to
make a file there does not end in a slash, not even in the target of a link.
-/

namespace JobShell

/-- The longest name, in bytes. -/
def maxNameLength : Nat := 255

/-- Paths of this many bytes or more are refused. -/
def pathLimit : Nat := 4096

/-- How many links one walk may follow. -/
def maxLinks : Nat := 40

/-- The slash between names. -/
def slash : UInt8 := 47

/-- The name of the directory itself. -/
def selfName : Bytes := [46]

/-- The name of the directory that a directory is in. -/
def parentName : Bytes := [46, 46]

namespace Path

/-- The pieces of a path between its slashes, empty ones included. -/
def pieces (path : Bytes) : List Bytes :=
  path.foldr
    (fun byte pieces =>
      if byte = slash then [] :: pieces
      else match pieces with
        | piece :: rest => (byte :: piece) :: rest
        | [] => [[byte]])
    [[]]

/-- Whether a path starts at the root. -/
def isAbsolute (path : Bytes) : Bool :=
  path.head? == some slash

/-- Whether a path ends in a slash, and so names a directory. -/
def endsInSlash (path : Bytes) : Bool :=
  path.getLast? == some slash

/-- The names along a path. A slash at the end of others than the root's path is an empty name. -/
def names (path : Bytes) : List Bytes :=
  let found := (pieces path).filter (· != [])
  if endsInSlash path && !found.isEmpty then found ++ [[]] else found

/-- The path without the slashes at its end. -/
def trim (path : Bytes) : Bytes :=
  let kept := (path.reverse.dropWhile (· == slash)).reverse
  if kept.isEmpty then path.take 1 else kept

/-- The last name along a path. -/
def baseName (path : Bytes) : Bytes :=
  ((names (trim path)).getLast?).getD path

end Path

/-- Where a walk ended. -/
inductive Location where
  /-- At a node. -/
  | found (inode : Inode)
  /-- At a directory that has no entry of the last name. -/
  | missing (directory : Inode) (name : Bytes)
deriving DecidableEq, Repr

/-- What is meant by the last name of a path. -/
inductive LastName where
  /-- What it leads to. -/
  | target
  /-- The entry itself, even if it is a link. -/
  | entry
  /-- What it leads to, or a new file there. -/
  | writable
deriving DecidableEq, Repr

namespace FileTree

/-- Walks along names from a node. -/
def walk (tree : FileTree) (last : LastName) (links : Nat) (here : Inode) (names : List Bytes) :
    Except Errno Location :=
  match names with
  | [] => .ok (.found here)
  | name :: rest =>
    match tree.node? here with
    | some (.directory _ parent entries) =>
      if name.isEmpty then walk tree last links here rest
      else if !tree.allows here .execute then .error .accessDenied
      else if name = selfName then walk tree last links here rest
      else if name = parentName then walk tree last links parent rest
      -- a file cannot be made under a name with a slash behind it
      else if last = .writable && rest = [[]] then .error .isDirectory
      else if maxNameLength < name.length then .error .nameTooLong
      else
        match entries.lookup name with
        -- only the last name may be missing
        | none => if rest.isEmpty then .ok (.missing here name) else .error .noEntry
        | some inode =>
          match tree.node? inode with
          | some (.link target) =>
            if rest.isEmpty && last = .entry then .ok (.found inode)
            else
              match links with
              | 0 => .error .tooManyLinks
              -- the names of the target take the place of the link's own
              | links + 1 =>
                if target.isEmpty then .error .noEntry
                else
                  walk tree last links (if Path.isAbsolute target then root else here)
                    (Path.names target ++ rest)
          | _ => walk tree last links inode rest
    | _ => .error .notDirectory
termination_by (links, names.length)

/-- Finds where a path leads from a directory. -/
def locate (tree : FileTree) (directory : Inode) (path : Bytes) (last : LastName := .target) :
    Except Errno Location :=
  if path.isEmpty then .error .noEntry
  else if pathLimit ≤ path.length then .error .nameTooLong
  else
    tree.walk last maxLinks (if Path.isAbsolute path then root else directory) (Path.names path)

/-- The node that a path leads to. -/
def find (tree : FileTree) (directory : Inode) (path : Bytes) (last : LastName := .target) :
    Except Errno Inode := do
  match ← tree.locate directory path last with
  | .found inode => return inode
  | .missing .. => throw .noEntry

/-- The node that a path leads to, if it may be read. -/
def findReadable (tree : FileTree) (directory : Inode) (path : Bytes) : Except Errno Inode := do
  let inode ← tree.find directory path
  tree.require inode .read
  return inode

/-- The directory that a path leads to, if it may be entered. -/
def enter (tree : FileTree) (directory : Inode) (path : Bytes) : Except Errno Inode := do
  let inode ← tree.find directory path
  if !tree.isDirectory inode then throw .notDirectory
  tree.require inode .execute
  return inode

/-- The absolute path of a directory, unless it or one that it is in has been removed. -/
def pathOf? (tree : FileTree) (inode : Inode) : Option Bytes :=
  climb tree.nodes.size inode []
where
  /-- Puts names in front of a path until the root is reached. -/
  climb : Nat → Inode → Bytes → Option Bytes
    | 0, _, _ => none
    | height + 1, inode, path =>
      if inode = root then some (if path.isEmpty then [slash] else path)
      else do
        let name ← tree.nameOf? inode
        climb height (tree.parent inode) (slash :: name ++ path)

end FileTree

end JobShell
