import JobShell.Program.Condition
import JobShell.Program.Environment

/-!
# JobShell.Program.Catalogue — the programs that come with the machine

Most programs do all their work in one go. Three do not: `sleep` ends later, `sh` goes through a
script, and `env` becomes another program.
-/

namespace JobShell.Program

/-- The programs that do all their work in one go. -/
def catalogue : List (String × (Job → Task Nat)) :=
  [("echo", echo), ("cat", cat), ("tee", tee), ("wc", wc), ("sort", sort),
    ("head", excerpt false), ("tail", excerpt true), ("true", fun _ => return 0),
    ("false", fun _ => return 1), ("pwd", pwd), ("touch", touch), ("chmod", chmod),
    ("mkdir", mkdir), ("rmdir", rmdir), ("rm", rm), ("ln", ln), ("cp", cp), ("mv", mv), ("ls", ls),
    ("test", test), ("[", test)]

/-- The names of all programs. -/
def names : List String :=
  catalogue.map (·.1) ++ ["sleep", "sh", "env"]

/-- A duration in microseconds, from a number with at most one point in it and the letter of a unit
behind it; without a letter the unit is a second. -/
def duration? (text : Bytes) : Option Nat := do
  let point : UInt8 := 46
  let units : List (UInt8 × Nat) := [(115, 1), (109, 60), (104, 3600), (100, 86400)]
  let unit := text.getLast?.bind fun letter => units.lookup letter
  let number := if unit.isSome then text.dropLast else text
  let whole := number.takeWhile (· != point)
  let part := (number.dropWhile (· != point)).drop 1
  if whole.isEmpty && part.isEmpty then none
  let seconds ← if whole.isEmpty then some 0 else Text.numeral? 10 whole
  let zeros := List.replicate 6 48
  -- digits beyond the sixth are read only to see that they are digits
  let _ ← Text.numeral? 10 (part ++ zeros)
  let micros ← Text.numeral? 10 ((part ++ zeros).take 6)
  return (seconds * 1000000 + micros) * unit.getD 1

/-- How long the operands of `sleep` ask to wait, or the code that it ends with at once. -/
def sleep (job : Job) : Task (Except Nat Nat) := do
  match Options.ofArguments "" {} job.operands with
  | .error misuse => return .error (← job.misunderstood misuse)
  | .ok options =>
    let wrong := options.operands.filter fun operand => (duration? operand).isNone
    let attempt := "invalid time interval "
    match options.operands, wrong.getLast? with
    | [], _ => return .error (← job.misused "missing operand")
    | operands, none =>
      return .ok (operands.foldl (fun total operand => total + (duration? operand).getD 0) 0)
    | _, some last =>
      for operand in wrong.dropLast do job.complainOf attempt (FileName.always operand) ""
      return .error (← job.misused attempt (FileName.always last))

end JobShell.Program
