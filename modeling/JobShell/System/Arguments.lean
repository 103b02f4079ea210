import JobShell.System.Failure

/-!
# JobShell.System.Arguments — the argument vector of a program

A program gets its arguments as a vector of pointers. Each points to bytes that end at the first
NUL byte, and a null pointer ends the vector. `ArgumentVector.of` lays out a list of arguments and
`ArgumentVector.read` is what a program makes of a vector.
-/

namespace JobShell

/-- A vector of pointers: each is null or leads to the bytes from there on. -/
abbrev ArgumentVector := List (Option Bytes)

namespace ArgumentVector

/-- The vector of a list of strings that have their NUL byte. -/
def ofTerminated (strings : List Bytes) : ArgumentVector :=
  strings.map some ++ [none]

/-- The vector of a list of arguments; it fails at the first argument with a NUL byte inside and
answers which one that is. -/
def of (arguments : List String) : Except String ArgumentVector := do
  let strings ← arguments.mapM fun argument =>
    (nulTerminated (Text.utf8 argument)).mapError fun _ => argument
  return ofTerminated strings

/-- The bytes before the first NUL byte. -/
def string (bytes : Bytes) : Bytes :=
  bytes.takeWhile (· != 0)

/-- The arguments that a program finds: the strings in front of the first null pointer. -/
def read : ArgumentVector → List Bytes
  | some bytes :: rest => string bytes :: read rest
  | _ => []

end ArgumentVector

end JobShell
