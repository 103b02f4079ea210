import JobShell.Text.Bytes

/-!
# JobShell.Script.Syntax — scripts as data

The scripts that programs on the machine can be written in are a small part of the usual command
language: simple commands with redirections, `if`, `while`, `until`, `for`, braces, `&&`, `||` and
`!`.
-/

namespace JobShell.Script

/-- What a dollar sign can stand in front of. -/
inductive Parameter where
  /-- An argument by its place; place 0 is the script's name. -/
  | positional (place : Nat)
  /-- The number of arguments. -/
  | count
  /-- All arguments, each a field of its own between quotes. -/
  | every
  /-- All arguments, one field between quotes. -/
  | joined
  /-- The number of the script's process. -/
  | process
  /-- The status of the last command. -/
  | status
  | variable (name : Bytes)
deriving DecidableEq, Repr

/-- A part of a word. -/
inductive Segment where
  | literal (text : Bytes) (quoted : Bool)
  | parameter (parameter : Parameter) (quoted : Bool)
deriving DecidableEq, Repr

/-- A word before its parameters are replaced. -/
abbrev Word := List Segment

/-- The text of a word that is written without quotes and parameters. -/
def Word.plain? (word : Word) : Option Bytes :=
  word.foldr
    (fun segment rest =>
      match segment, rest with
      | .literal text false, some rest => some (text ++ rest)
      | _, _ => none)
    (some [])

/-- What a redirection does. -/
inductive RedirectionKind where
  | input
  | output
  | append
  | duplicate
deriving DecidableEq, Repr

/-- A redirection of a command in a script. -/
structure Redirect where
  descriptor : Nat
  kind : RedirectionKind
  target : Word
deriving DecidableEq, Repr

/-- A simple command. -/
structure Simple where
  /-- The line that it begins on. -/
  line : Nat
  assignments : List (Bytes × Word) := []
  words : List Word := []
  redirects : List Redirect := []
deriving DecidableEq, Repr

/-- A command in a script. -/
inductive Statement where
  | simple (command : Simple)
  /-- `if`: the condition's last status chooses. -/
  | choose (condition yes no : List Statement)
  /-- `while`, or `until` if the condition is expected to fail. -/
  | loop (expected : Bool) (condition body : List Statement)
  /-- `for` over words, or over the arguments if there are none. -/
  | forEach (name : Bytes) (items : Option (List Word)) (body : List Statement)
  /-- Braces. -/
  | group (body : List Statement)
  /-- `&&`, or `||` if the first is expected to fail. -/
  | chain (expected : Bool) (first second : Statement)
  /-- `!`. -/
  | negate (statement : Statement)
  /-- A compound command with redirections of its own. -/
  | redirected (line : Nat) (redirects : List Redirect) (statement : Statement)
deriving Repr

end JobShell.Script
