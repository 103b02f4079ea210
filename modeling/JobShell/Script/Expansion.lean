import JobShell.Script.Syntax
import JobShell.Text.Decimal

/-!
# JobShell.Script.Expansion — the fields that words stand for

A word becomes any number of fields. A parameter between quotes is kept whole, except that the
parameter for all arguments keeps each argument a field of its own; a parameter outside of quotes is
cut at white space, and leaves nothing if it is empty.
-/

namespace JobShell.Script

/-- What parameters are replaced by. -/
structure Scope where
  /-- The script's name and its arguments. -/
  arguments : List Bytes
  assigned : List (Bytes × Bytes) := []
  process : Nat
  status : Nat := 0
deriving DecidableEq, Repr

namespace Scope

/-- The value of a parameter as fields; there are several for the arguments only. -/
def values (scope : Scope) : Parameter → List Bytes
  | .positional place => (scope.arguments[place]?).toList
  | .count => [Text.utf8 (Text.Decimal.text (scope.arguments.length - 1 : Nat))]
  | .every | .joined => scope.arguments.tail
  | .process => [Text.utf8 (Text.Decimal.text scope.process)]
  | .status => [Text.utf8 (Text.Decimal.text scope.status)]
  | .variable name => (scope.assigned.lookup name).toList

/-- The scope with a variable set. -/
def assign (scope : Scope) (name value : Bytes) : Scope :=
  { scope with assigned := (name, value) :: scope.assigned.filter (·.1 != name) }

end Scope

/-- Fields while a word is read: the finished ones, and the one that is being put together, if
anything has gone into it. -/
structure Fields where
  finished : List Bytes := []
  current : Option Bytes := none

namespace Fields

/-- Adds to the field that is being put together. -/
def add (fields : Fields) (text : Bytes) : Fields :=
  { fields with current := some (fields.current.getD [] ++ text) }

/-- Begins a new field. -/
def cut (fields : Fields) : Fields where
  finished := fields.finished ++ fields.current.toList

/-- Adds several texts, each in the given way, with a cut between them. -/
def addEach (addOne : Fields → Bytes → Fields) (fields : Fields) : List Bytes → Fields
  | [] => fields
  | [text] => addOne fields text
  | text :: texts => (addOne fields text).cut.addEach addOne texts

/-- Adds a text that is cut at white space. -/
def addSplit (fields : Fields) (text : Bytes) : Fields :=
  text.foldl
    (fun fields byte => if [32, 9, 10].contains byte then fields.cut else fields.add [byte])
    fields

/-- Takes one segment of a word. -/
def next (scope : Scope) (fields : Fields) : Segment → Fields
  | .literal text _ => fields.add text
  | .parameter .every true => fields.addEach add (scope.values .every)
  | .parameter parameter true => fields.add ((scope.values parameter).intersperse [32]).flatten
  | .parameter parameter false => fields.addEach addSplit (scope.values parameter)

end Fields

/-- The fields that a word stands for. -/
def Scope.expand (scope : Scope) (word : Word) : List Bytes :=
  (word.foldl (Fields.next scope) {}).cut.finished

/-- The one field that a word stands for where it is not cut. -/
def Scope.expandWhole (scope : Scope) (word : Word) : Bytes :=
  word.flatMap fun segment =>
    match segment with
    | .literal text _ => text
    | .parameter parameter _ => ((scope.values parameter).intersperse [32]).flatten

end JobShell.Script
