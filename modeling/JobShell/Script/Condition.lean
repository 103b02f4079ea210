import JobShell.Program.Condition

/-!
# JobShell.Script.Condition — the conditions of scripts

A condition is made of questions with `-a` between those that must all be true, `-o` between
alternatives, parentheses, and an exclamation mark in front of what is turned around. What could be
an operator is taken as a plain text where an operator makes no sense: as the last operand, or in
front of an operator that stands between two texts.
-/

namespace JobShell.Script.Condition

/-- What reading a part of a condition answers: its truth, the operand that was read last and the
operands behind it. -/
structure Part where
  truth : Bool
  last : Bytes
  rest : List Bytes
deriving DecidableEq, Repr

/-- The order of texts that an operator asks for. -/
def ordering? (operator left right : Bytes) : Option Bool :=
  match Text.ofUtf8? operator with
  | some "<" => some (Program.precedes left right && left != right)
  | some ">" => some (Program.precedes right left && left != right)
  | _ => none

/-- Whether a text is an operator between two operands. -/
def isBinary (text : Bytes) : Bool :=
  (Program.textual? text [] []).isSome || (ordering? text [] []).isSome
    || (Program.comparison? text).isSome || (["-nt", "-ot", "-ef"].map Text.utf8).contains text

/-- Whether a text is an operator in front of an operand. -/
def isUnary (text : Bytes) : Bool :=
  (Program.fileQuestion? text).isSome || (["-n", "-z", "-t"].map Text.utf8).contains text

/-- Whether the first of several operands stands for itself although it could be an operator. -/
def isPlain : List Bytes → Bool
  | [] | [_] => true
  | [_, _] => false
  | _ :: second :: _ => isBinary second

/-- The number of an operand; blanks around it do not matter. -/
def number? (operand : Bytes) : Option Int :=
  let isSpace (byte : UInt8) : Bool := [9, 10, 11, 12, 13, 32].contains byte
  Text.integer? (((operand.dropWhile isSpace).reverse.dropWhile isSpace).reverse)

/-- Why a condition makes no sense. -/
inductive Complaint where
  | argumentExpected (operator : Bytes)
  | unexpectedOperator (operand : Bytes)
  | illegalNumber (operand : Bytes)
  | parenthesisExpected
deriving DecidableEq, Repr

/-- The reason in words. -/
def Complaint.message : Complaint → Bytes
  | argumentExpected operator => operator ++ Text.utf8 ": argument expected"
  | unexpectedOperator operand => operand ++ Text.utf8 ": unexpected operator"
  | illegalNumber operand => Text.utf8 "Illegal number: " ++ operand
  | parenthesisExpected => Text.utf8 "closing paren expected"

variable (tree : FileTree) (directory : Inode)

/-- Answers a question about two operands. -/
def compare (left operator right : Bytes) : Except Complaint Bool :=
  match Program.comparison? operator with
  | some holds =>
    match number? left, number? right with
    | some a, some b => .ok (holds a b)
    | none, _ => .error (.illegalNumber left)
    | _, none => .error (.illegalNumber right)
  | none =>
    let answer := Program.textual? operator left right
      <|> ordering? operator left right
      <|> Program.filePair? operator left right tree directory
    .ok (answer.getD false)

mutual

/-- Reads parts with `-o` between them. -/
def alternatives : Nat → List Bytes → Except Complaint Part
  | 0, operands => .ok ⟨false, [], operands⟩
  | fuel + 1, operands => do
    let first ← conjunction fuel operands
    match first.rest with
    | operator :: rest =>
      if operator = Text.utf8 "-o" then
        let second ← alternatives fuel rest
        return { second with truth := first.truth || second.truth }
      else return first
    | [] => return first

/-- Reads parts with `-a` between them. -/
def conjunction : Nat → List Bytes → Except Complaint Part
  | 0, operands => .ok ⟨false, [], operands⟩
  | fuel + 1, operands => do
    let first ← negation fuel operands
    match first.rest with
    | operator :: rest =>
      if operator = Text.utf8 "-a" then
        let second ← conjunction fuel rest
        return { second with truth := first.truth && second.truth }
      else return first
    | [] => return first

/-- Reads a part that may have an exclamation mark in front. -/
def negation : Nat → List Bytes → Except Complaint Part
  | 0, operands => .ok ⟨false, [], operands⟩
  | fuel + 1, operands =>
    match operands with
    | sign :: rest =>
      if sign = Text.utf8 "!" then do
        let part ← negation fuel rest
        return { part with truth := !part.truth }
      else question fuel operands
    | [] => question fuel operands

/-- Reads one question. -/
def question : Nat → List Bytes → Except Complaint Part
  | 0, operands => .ok ⟨false, [], operands⟩
  | _, [] => .ok ⟨false, [], []⟩
  | fuel + 1, first :: rest =>
    if first = Text.utf8 "(" && !rest.isEmpty then do
      let inner ← alternatives fuel rest
      match inner.rest with
      | close :: rest =>
        if close = Text.utf8 ")" then return { inner with last := close, rest }
        else throw .parenthesisExpected
      | [] => throw .parenthesisExpected
    else if isUnary first && !isPlain (first :: rest) then
      match rest with
      | operand :: rest =>
        .ok ⟨(Program.unary? first operand tree directory).getD false, operand, rest⟩
      | [] => .error (.argumentExpected first)
    else
      match rest with
      | operator :: behind =>
        if isBinary operator then
          match behind with
          | [] => .error (.argumentExpected operator)
          | right :: rest => do
            return ⟨← compare tree directory first operator right, right, rest⟩
        else .ok ⟨!first.isEmpty, first, rest⟩
      | [] => .ok ⟨!first.isEmpty, first, rest⟩

end

/-- The truth of a condition. -/
def evaluate (operands : List Bytes) : Except Complaint Bool := do
  match operands with
  | [left, operator, right] =>
    if isBinary operator then return ← compare tree directory left operator right
  | _ => pure ()
  let part ← alternatives tree directory (4 * operands.length + 4) operands
  if part.rest.isEmpty then return part.truth
  throw (.unexpectedOperator part.last)

end JobShell.Script.Condition
