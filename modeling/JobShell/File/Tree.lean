import JobShell.System.Errno
import JobShell.Text.Bytes

/-!
# JobShell.File.Tree — files, directories and links

A tree is an array of nodes; a node's index is its identity, and node 0 is the root. Directories
list their entries by name and know the directory they are in, so that a directory can still be
left after it has been removed. Nodes are never taken away: a file without a name is no longer
found but can still be read and written by whoever has it open.

All nodes belong to one owner, and everybody who asks is that owner. So of the permissions of a
node only the owner's decide, and they bind the owner like anybody else.
-/

namespace JobShell

/-- The identity of a node. -/
abbrev Inode := Nat

/-- Files that behave in a way of their own. -/
inductive Device where
  /-- Reads as empty and takes everything. -/
  | null
  /-- Never has room. -/
  | full
  /-- A pipe that nobody reads from. -/
  | broken
deriving DecidableEq, Repr

/-- One node of the tree. -/
inductive Node where
  | file (mode : Nat) (content : Bytes)
  | directory (mode : Nat) (parent : Inode) (entries : List (Bytes × Inode))
  | link (target : Bytes)
  | device (device : Device)
  /-- A program that belongs to the machine. -/
  | program (name : String)
deriving DecidableEq, Repr

/-- Files, directories and links. -/
structure FileTree where
  nodes : Array Node
deriving Repr

namespace FileTree

/-- The node where absolute paths start. -/
def root : Inode := 0

/-- The tree that holds nothing but its root. -/
def initial : FileTree := ⟨#[.directory 0o755 root []]⟩

/-- The node of an identity. -/
def node? (tree : FileTree) (inode : Inode) : Option Node :=
  tree.nodes[inode]?

/-- Replaces a node. -/
def put (tree : FileTree) (inode : Inode) (node : Node) : FileTree :=
  ⟨tree.nodes.setIfInBounds inode node⟩

/-- Adds a node that has no name yet. -/
def add (tree : FileTree) (node : Node) : Inode × FileTree :=
  (tree.nodes.size, ⟨tree.nodes.push node⟩)

/-- The entries of a directory; other nodes have none. -/
def entries (tree : FileTree) (inode : Inode) : List (Bytes × Inode) :=
  match tree.node? inode with
  | some (.directory _ _ entries) => entries
  | _ => []

/-- The bytes in a file; other nodes have none. -/
def content (tree : FileTree) (inode : Inode) : Bytes :=
  match tree.node? inode with
  | some (.file _ content) => content
  | _ => []

/-- Whether a node is a directory. -/
def isDirectory (tree : FileTree) (inode : Inode) : Bool :=
  match tree.node? inode with
  | some (.directory ..) => true
  | _ => false

/-- The directory that a directory is in. -/
def parent (tree : FileTree) (inode : Inode) : Inode :=
  match tree.node? inode with
  | some (.directory _ parent _) => parent
  | _ => root

/-- The name of a directory in the directory that it is in, unless it has been removed. -/
def nameOf? (tree : FileTree) (inode : Inode) : Option Bytes :=
  ((tree.entries (tree.parent inode)).find? fun entry => entry.2 == inode).map (·.1)

/-- How many names a node has. -/
def nameCount (tree : FileTree) (inode : Inode) : Nat :=
  tree.nodes.foldl
    (fun count node =>
      match node with
      | .directory _ _ entries => count + entries.countP fun entry => entry.2 == inode
      | _ => count)
    0

/-- Whether a directory has been removed. -/
def isRemoved (tree : FileTree) (inode : Inode) : Bool :=
  inode != root && (tree.nameOf? inode).isNone

/-- Changes the entries of a directory. -/
def modifyEntries (tree : FileTree) (inode : Inode)
    (change : List (Bytes × Inode) → List (Bytes × Inode)) : FileTree :=
  match tree.node? inode with
  | some (.directory mode parent entries) =>
    tree.put inode (.directory mode parent (change entries))
  | _ => tree

/-- Gives a node a name in a directory, which a directory then is in. -/
def link (tree : FileTree) (directory : Inode) (name : Bytes) (inode : Inode) : FileTree :=
  let moved :=
    match tree.node? inode with
    | some (.directory mode _ entries) => tree.put inode (.directory mode directory entries)
    | _ => tree
  moved.modifyEntries directory (· ++ [(name, inode)])

/-- Takes a name out of a directory. -/
def unlink (tree : FileTree) (directory : Inode) (name : Bytes) : FileTree :=
  tree.modifyEntries directory (·.filter (·.1 != name))

/-- Adds a node under a name in a directory. -/
def create (tree : FileTree) (directory : Inode) (name : Bytes) (node : Node) :
    Inode × FileTree :=
  let (inode, tree) := tree.add node
  (inode, tree.link directory name inode)

/-- The permissions of a file once somebody has written to it: it no longer lends the identity of
its owner to whoever runs it, nor that of its group if the group may run it. -/
def plainMode (mode : Nat) : Nat :=
  let lent := 0o4000 ||| (if mode &&& 0o010 != 0 then 0o2000 else 0)
  mode - (mode &&& lent)

/-- Replaces the bytes in a file. -/
def setContent (tree : FileTree) (inode : Inode) (content : Bytes) : FileTree :=
  match tree.node? inode with
  | some (.file mode _) => tree.put inode (.file (plainMode mode) content)
  | _ => tree

/-- Replaces the permissions of a file or directory. -/
def setMode (tree : FileTree) (inode : Inode) (mode : Nat) : FileTree :=
  match tree.node? inode with
  | some (.file _ content) => tree.put inode (.file mode content)
  | some (.directory _ parent entries) => tree.put inode (.directory mode parent entries)
  | _ => tree

/-- The permissions of a node. -/
def mode (tree : FileTree) (inode : Inode) : Nat :=
  match tree.node? inode with
  | some (.file mode _) | some (.directory mode _ _) => mode
  | some (.program _) => 0o755
  | some (.device _) => 0o666
  | some (.link _) => 0o777
  | none => 0

end FileTree

/-- What somebody may want to do with a node. For a directory, to write is to change its entries,
and to execute is to look names up in it. -/
inductive Access where
  | read
  | write
  | execute
deriving DecidableEq, Repr

/-- The owner's permission. -/
def Access.permission : Access → Nat
  | .read => 0o400
  | .write => 0o200
  | .execute => 0o100

namespace FileTree

/-- Whether the owner has a permission. -/
def allows (tree : FileTree) (inode : Inode) (access : Access) : Bool :=
  tree.mode inode &&& access.permission != 0

/-- Fails unless the owner has a permission. -/
def require (tree : FileTree) (inode : Inode) (access : Access) : Except Errno Unit :=
  if tree.allows inode access then .ok () else .error .accessDenied

end FileTree

end JobShell
