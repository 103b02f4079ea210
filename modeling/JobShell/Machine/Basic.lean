import JobShell.File.Edit
import JobShell.System.Host

/-!
# JobShell.Machine.Basic — a machine with files, processes and a clock

The machine is a small concrete system for the shell to run on: a file tree, the files that are
open, and processes that take turns on a clock of their own. Work takes no time on this clock; only
sleeping does. So what the machine does is a function of what it is given.

An open file has one position, shared by all descriptors that lead to it, in whatever process.
-/

namespace JobShell

/-- The identity of an open file. -/
abbrev Handle := Nat

/-- A file that has been opened. -/
structure OpenFile where
  inode : Inode
  /-- Where the next read or write begins. -/
  position : Nat := 0
  readable : Bool := false
  writable : Bool := false
  /-- Whether every write goes to the end. -/
  appends : Bool := false
  /-- Whether it is the end of a pipe: what has been read from it is gone, and nobody knows how much
  is still to come. -/
  isPipe : Bool := false
deriving DecidableEq, Repr

/-- Where a process stands in the file tree. -/
structure Place where
  directory : Inode
  /-- The permissions that new files do not get. -/
  creationMask : Nat := 0o022
deriving DecidableEq, Repr

/-- What a program's process inherits and keeps on this machine. -/
abbrev Machine.Attributes := JobShell.Attributes Handle Place

namespace Machine

/-- The open files and the file tree, which is what programs work on. -/
structure Storage where
  tree : FileTree := .initial
  files : Array OpenFile := #[]
deriving Repr

namespace Storage

/-- The open file of a handle. -/
def file? (storage : Storage) (handle : Handle) : Option OpenFile :=
  storage.files[handle]?

/-- Adds an open file. -/
def addFile (storage : Storage) (file : OpenFile) : Handle × Storage :=
  (storage.files.size, { storage with files := storage.files.push file })

/-- Opens a file for reading. -/
def openInput (storage : Storage) (place : Place) (path : Bytes) :
    Except Errno Handle × Storage :=
  match storage.tree.findReadable place.directory path with
  | .error errno => (.error errno, storage)
  | .ok inode =>
    let (handle, storage) := storage.addFile { inode, readable := true }
    (.ok handle, storage)

/-- The permissions of a new file, from those asked for. -/
def newMode (place : Place) (asked : Nat) : Nat :=
  asked - (asked &&& place.creationMask)

/-- Opens a file for writing from its beginning; it is made if it is missing. -/
def openOutput (storage : Storage) (place : Place) (path : Bytes) (asked : Nat := 0o644) :
    Except Errno Handle × Storage :=
  match storage.tree.truncate place.directory path (newMode place asked) with
  | .error errno => (.error errno, storage)
  | .ok (inode, tree) =>
    let (handle, storage) := { storage with tree }.addFile { inode, writable := true }
    (.ok handle, storage)

/-- Opens a file for writing at its end; it is made if it is missing. -/
def openAppend (storage : Storage) (place : Place) (path : Bytes) :
    Except Errno Handle × Storage :=
  match storage.tree.touch place.directory path (newMode place 0o666) with
  | .error errno => (.error errno, storage)
  | .ok (inode, tree) =>
    let (handle, storage) :=
      { storage with tree }.addFile { inode, writable := true, appends := true }
    (.ok handle, storage)

/-- Reads at most `count` bytes from the position on. -/
def read (storage : Storage) (handle : Handle) (count : Nat) : Except Errno Bytes × Storage :=
  match storage.file? handle with
  | none => (.error .badDescriptor, storage)
  | some file =>
    if !file.readable then (.error .badDescriptor, storage)
    else if storage.tree.isDirectory file.inode then (.error .isDirectory, storage)
    else
      let bytes := ((storage.tree.content file.inode).drop file.position).take count
      let moved := { file with position := file.position + bytes.length }
      (.ok bytes, { storage with files := storage.files.setIfInBounds handle moved })

/-- Reads all that is left. -/
def readAll (storage : Storage) (handle : Handle) : Except Errno Bytes × Storage :=
  match storage.file? handle with
  | none => (.error .badDescriptor, storage)
  | some file => storage.read handle (storage.tree.content file.inode).length

/-- The position of an open file. -/
def position (storage : Storage) (handle : Handle) : Nat :=
  ((storage.file? handle).map (·.position)).getD 0

/-- The number of bytes behind an open file, if it is one that knows. -/
def size? (storage : Storage) (handle : Handle) : Option Nat := do
  let file ← storage.file? handle
  match storage.tree.node? file.inode with
  | some (.file _ content) => if file.isPipe then none else some content.length
  | _ => none

/-- Whether what is left to read of an open file would be written to itself. -/
def feeds (storage : Storage) (input : Handle) (output : Option Handle) : Bool :=
  match storage.file? input, output.bind storage.file? with
  | some source, some target =>
    source.inode = target.inode && (storage.size? input).any (source.position < ·)
  | _, _ => false

/-- Sets the position of an open file. -/
def seek (storage : Storage) (handle : Handle) (position : Nat) : Storage :=
  match storage.file? handle with
  | none => storage
  | some file =>
    { storage with files := storage.files.setIfInBounds handle { file with position } }

/-- Goes back after more has been read than was `wanted` from a position on. From a pipe nothing can
be given back but the blocks that would not have been read at all. -/
def giveBack (storage : Storage) (handle : Handle) (start wanted block : Nat) : Storage :=
  let isPipe := (storage.file? handle).any (·.isPipe)
  let taken := if isPipe then (max 1 wanted + block - 1) / block * block else wanted
  storage.seek handle (min (start + taken) (storage.position handle))

/-- Whether one of several open files is open for writing to a node. -/
def isWriter (storage : Storage) (handles : List Handle) (inode : Inode) : Bool :=
  handles.any fun handle =>
    (storage.file? handle).any fun file => file.writable && file.inode = inode

/-- The results of the calls that write to an open file, as far as they are not complete. -/
def writeResults (storage : Storage) (handle : Handle) : List WriteResult :=
  match storage.file? handle with
  | none => Sink.closed.results
  | some file =>
    if !file.writable then Sink.closed.results
    else
      match storage.tree.node? file.inode with
      | some (.device .full) => Sink.full.results
      | some (.device .broken) => Sink.broken.results
      | _ => Sink.storage.results

/-- Bytes with others written over them from a position on; a gap is filled with zeros. -/
def overlay (content bytes : Bytes) (position : Nat) : Bytes :=
  content.take position ++ List.replicate (position - content.length) 0 ++ bytes
    ++ content.drop (position + bytes.length)

/-- Puts bytes that the file has taken at the position, or at the end. -/
def write (storage : Storage) (handle : Handle) (bytes : Bytes) : Storage :=
  match if bytes.isEmpty then none else storage.file? handle with
  | none => storage
  | some file =>
    let content := storage.tree.content file.inode
    let position := if file.appends then content.length else file.position
    let moved := { file with position := position + bytes.length }
    { tree := storage.tree.setContent file.inode (overlay content bytes position)
      files := storage.files.setIfInBounds handle moved }

end Storage

end Machine

end JobShell
