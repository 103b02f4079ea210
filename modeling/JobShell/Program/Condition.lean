import JobShell.Program.Transfer

/-!
# JobShell.Program.Condition — questions about files, texts and numbers

A condition is made of questions: one operand, an operator and an operand, or an operator between
two operands. There may be `-a` between those that must all be true, `-o` between alternatives,
parentheses, and an exclamation mark in front of what is turned around. `sh` answers conditions of
its own grammar, made of the same questions.
-/

namespace JobShell.Program

/-- Whether a node is an ordinary file. -/
def isFile (tree : FileTree) (inode : Inode) : Bool :=
  match tree.node? inode with
  | some (.file ..) | some (.program _) => true
  | _ => false

/-- Whether a node is a device that is read and written character by character. -/
def isCharacterDevice (tree : FileTree) (inode : Inode) : Bool :=
  match tree.node? inode with
  | some (.device .null) | some (.device .full) => true
  | _ => false

/-- The question about files that an operator asks, and whether it is asked of a link itself. -/
def fileQuestion? (operator : Bytes) : Option ((FileTree → Inode → Bool) × LastName) :=
  match Text.ofUtf8? operator with
  | some "-e" => some (fun _ _ => true, .target)
  | some "-f" => some (isFile, .target)
  | some "-d" => some (FileTree.isDirectory, .target)
  | some "-c" => some (isCharacterDevice, .target)
  | some "-b" | some "-p" | some "-S" => some (fun _ _ => false, .target)
  | some "-r" => some (fun tree inode => tree.allows inode .read, .target)
  | some "-w" => some (fun tree inode => tree.allows inode .write, .target)
  | some "-x" => some (fun tree inode => tree.allows inode .execute, .target)
  | some "-u" => some (fun tree inode => tree.mode inode &&& 0o4000 != 0, .target)
  | some "-g" => some (fun tree inode => tree.mode inode &&& 0o2000 != 0, .target)
  | some "-k" => some (fun tree inode => tree.mode inode &&& 0o1000 != 0, .target)
  | some "-O" | some "-G" => some (fun _ _ => true, .target)
  | some "-s" =>
    some (fun tree inode => tree.isDirectory inode || !(tree.content inode).isEmpty, .target)
  | some "-L" | some "-h" => some (isLink, .entry)
  | _ => none

/-- The answer to a question that an operator asks about one operand. -/
def unary? (operator operand : Bytes) (tree : FileTree) (directory : Inode) : Option Bool :=
  match fileQuestion? operator with
  | some (holds, last) => some ((tree.find directory operand last).toOption.any (holds tree))
  | none =>
    match Text.ofUtf8? operator with
    | some "-n" => some !operand.isEmpty
    | some "-z" => some operand.isEmpty
    | some "-t" => some false
    | _ => none

/-- The answer to a question that an operator asks about two texts. -/
def textual? (operator left right : Bytes) : Option Bool :=
  match Text.ofUtf8? operator with
  | some "=" => some (left == right)
  | some "!=" => some (left != right)
  | _ => none

/-- The comparison of numbers that an operator asks for. -/
def comparison? (operator : Bytes) : Option (Int → Int → Bool) :=
  match Text.ofUtf8? operator with
  | some "-eq" => some (· == ·)
  | some "-ne" => some (· != ·)
  | some "-lt" => some (· < ·)
  | some "-le" => some (· ≤ ·)
  | some "-gt" => some (· > ·)
  | some "-ge" => some (· ≥ ·)
  | _ => none

/-- The answer to a question that an operator asks about two files. All files are equally old. -/
def filePair? (operator left right : Bytes) (tree : FileTree) (directory : Inode) : Option Bool :=
  match Text.ofUtf8? operator with
  | some "-nt" | some "-ot" => some false
  | some "-ef" =>
    let found := (tree.find directory left).toOption
    some (found.isSome && found = (tree.find directory right).toOption)
  | _ => none

/-- Why a condition makes no sense. -/
inductive Nonsense where
  | noInteger (operand : Bytes)
  | noUnary (operator : Bytes)
  | noBinary (operator : Bytes)
  | extra (operand : Bytes)
  /-- Something is missing behind the last operand. -/
  | cutShort
  | unclosed
  | closedBy (operand : Bytes)
deriving DecidableEq, Repr

namespace Condition

/-- The operand that turns around what is behind it. -/
def negator : Bytes := [33]

/-- The operand that begins a group. -/
def opening : Bytes := [40]

/-- The operand that ends a group. -/
def closing : Bytes := [41]

/-- Whether an operand is a dash and one letter. -/
def isSwitch (operand : Bytes) : Bool :=
  operand.length == 2 && operand.head? == some 45

/-- What reading a part of a condition answers: its truth and the operands behind it. -/
abbrev Reading := Except Nonsense (Bool × List Bytes)

/-- What has been read, turned around. -/
def Reading.negate (reading : Reading) : Reading :=
  reading.map fun (truth, rest) => (!truth, rest)

variable (tree : FileTree) (directory : Inode)

/-- The answer to a question about two operands, if there is such an operator. -/
def binary? (left operator right : Bytes) : Option (Except Nonsense Bool) :=
  let operator := if operator = Text.utf8 "==" then Text.utf8 "=" else operator
  match textual? operator left right, filePair? operator left right tree directory,
    comparison? operator with
  | some answer, _, _ | none, some answer, _ => some (.ok answer)
  | none, none, some compare =>
    match Text.integer? left, Text.integer? right with
    | some left, some right => some (.ok (compare left right))
    | none, _ => some (.error (.noInteger left))
    | _, none => some (.error (.noInteger right))
  | none, none, none => none

/-- Reads the operand of an operator. -/
def unary (operator : Bytes) (rest : List Bytes) : Reading :=
  match (unary? operator [] tree directory).isSome, rest with
  | false, _ => .error (.noUnary operator)
  | true, [] => .error .cutShort
  | true, operand :: rest => .ok ((unary? operator operand tree directory).getD false, rest)

/-- Reads a condition of two operands. -/
def pair : List Bytes → Reading
  | first :: second :: rest =>
    if first = negator then .ok (second.isEmpty, rest)
    else if isSwitch first then unary tree directory first (second :: rest)
    else .error .cutShort
  | _ => .error .cutShort

/-- How many operands a group holds. A short one ends at the next closing parenthesis, a long one
is all that is left. -/
def groupLength (operands : List Bytes) : Nat :=
  match operands.tail.findIdx? (· == closing) with
  | some n => if n < 4 then n + 1 else operands.length
  | none => operands.length

mutual

/-- Reads a condition of a given number of operands. With up to four of them, their number decides
what they mean. -/
def counted : (fuel count : Nat) → List Bytes → Reading
  | 0, _, _ => .error .cutShort
  | fuel + 1, count, operands =>
    match count, operands with
    | 1, operand :: rest => .ok (!operand.isEmpty, rest)
    | 2, operands => pair tree directory operands
    | 3, left :: operator :: right :: rest =>
      match binary? tree directory left operator right with
      | some answer => answer.map (·, rest)
      | none =>
        if left = negator then Reading.negate (pair tree directory (operator :: right :: rest))
        else if left = opening && right = closing then .ok (!operator.isEmpty, rest)
        else if operator = Text.utf8 "-a" || operator = Text.utf8 "-o" then
          alternatives fuel operands
        else .error (.noBinary operator)
    | 4, first :: rest =>
      if first = negator then Reading.negate (counted fuel 3 rest)
      else if first = opening && rest[2]? = some closing then do
        let (truth, rest) ← pair tree directory rest
        return (truth, rest.tail)
      else alternatives fuel operands
    | _, _ => alternatives fuel operands

/-- Reads parts with `-o` between them. -/
def alternatives : (fuel : Nat) → List Bytes → Reading
  | 0, _ => .error .cutShort
  | fuel + 1, operands => do
    let (first, rest) ← conjunction fuel operands
    if rest.head? != some (Text.utf8 "-o") then return (first, rest)
    let (second, rest) ← alternatives fuel rest.tail
    return (first || second, rest)

/-- Reads parts with `-a` between them. -/
def conjunction : (fuel : Nat) → List Bytes → Reading
  | 0, _ => .error .cutShort
  | fuel + 1, operands => do
    let (first, rest) ← term fuel operands
    if rest.head? != some (Text.utf8 "-a") then return (first, rest)
    let (second, rest) ← conjunction fuel rest.tail
    return (first && second, rest)

/-- Reads a part that has no `-a` and no `-o` outside of parentheses. -/
def term : (fuel : Nat) → List Bytes → Reading
  | 0, _ => .error .cutShort
  | _, [] => .error .cutShort
  | fuel + 1, first :: rest =>
    if first = negator then Reading.negate (term fuel rest)
    else if first = opening then
      if rest.isEmpty then .error .cutShort
      else do
        let (truth, rest) ← counted fuel (groupLength rest) rest
        match rest with
        | [] => throw .unclosed
        | found :: rest => if found = closing then return (truth, rest) else throw (.closedBy found)
    else
      let binary : Option Reading :=
        match rest with
        | operator :: right :: rest =>
          (binary? tree directory first operator right).map (·.map (·, rest))
        | _ => none
      binary.getD
        (if isSwitch first then unary tree directory first rest else .ok (!first.isEmpty, rest))

end

/-- The truth of a condition. -/
def evaluate (operands : List Bytes) : Except Nonsense Bool := do
  if operands.isEmpty then return false
  match ← counted tree directory (5 * operands.length + 5) operands.length operands with
  | (truth, []) => return truth
  | (_, operand :: _) => throw (.extra operand)

end Condition

/-- Whether a job was called by its bracket name. -/
def isBracket (job : Job) : Bool :=
  Path.baseName (job.arguments.headD []) == Text.utf8 "["

/-- Complains about a condition that makes no sense. -/
def Nonsense.complain (job : Job) (operands : List Bytes) : Nonsense → Task Unit
  | noInteger operand => job.complainOf "invalid integer " (FileName.always operand) ""
  | noUnary operator => job.complainOf "" (FileName.always operator) ": unary operator expected"
  | noBinary operator => job.complainOf "" (FileName.always operator) ": binary operator expected"
  | extra operand => job.complainOf "extra argument " (FileName.always operand) ""
  | cutShort =>
    job.complainOf "missing argument after " (FileName.always ((operands.getLast?).getD [])) ""
  | unclosed => job.complain ("')' expected" ++ if isBracket job then ", found ']'" else "")
  | closedBy operand => job.complainOf "')' expected, found " (FileName.always operand) ""

/-- The operands of a test without the closing bracket that it needs when it is called by its
bracket name. -/
def testOperands? (job : Job) : Option (List Bytes) :=
  if !isBracket job then some job.operands
  else if job.operands.getLast? = some (Text.utf8 "]") then some job.operands.dropLast
  else none

/-- Tests a condition. -/
def test (job : Job) : Task Nat := do
  match testOperands? job with
  | none => job.refuse "missing ']'" 2
  | some operands =>
    match Condition.evaluate (← get).tree job.directory operands with
    | .ok true => return 0
    | .ok false => return 1
    | .error nonsense =>
      nonsense.complain job operands
      return 2

end JobShell.Program
