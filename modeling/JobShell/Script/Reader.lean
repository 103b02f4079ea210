import JobShell.Script.Token

/-!
# JobShell.Script.Reader — statements from tokens

Reading descends along the grammar. Each function takes tokens from the front and answers what is
left, or the mistake that it met. A script is read line by line (`line`), so that the lines before a
mistake are still gone through. The fuel bounds the depth; the number of tokens gives enough.
-/

namespace JobShell.Script

/-- Why a script cannot be read any further. -/
inductive Reason where
  | unexpected
  | expecting (keyword : String)
  | badLoopVariable
deriving DecidableEq, Repr

/-- A mistake in a script. -/
structure Mistake where
  /-- What the reader met; nothing at the end of the script. -/
  found : Option Lexeme
  reason : Reason
deriving DecidableEq, Repr

namespace Reader

/-- What has been read and what is left behind it. -/
abbrev Part (α : Type) := α × List Lexeme

/-- The words that have a meaning of their own where a command may begin. -/
def keywords : List String :=
  ["!", "\x7b", "\x7d", "case", "do", "done", "elif", "else", "esac", "fi", "for", "if", "in",
    "then", "until", "while"]

/-- The reserved word that a token is, if it is one. -/
def keywordOf? : Token → Option String
  | .word word =>
    word.plain?.bind fun plain => keywords.find? fun keyword => Text.utf8 keyword == plain
  | _ => none

/-- The reserved word at the front. -/
def keyword? (tokens : List Lexeme) : Option String :=
  tokens.head?.bind fun lexeme => keywordOf? lexeme.token

/-- Ends reading at the front. -/
def mistake {α : Type} (tokens : List Lexeme) (reason : Reason := .unexpected) :
    Except Mistake (Part α) :=
  .error ⟨tokens.head?, reason⟩

/-- What is left behind an expected reserved word. -/
def expect (keyword : String) (tokens : List Lexeme) : Except Mistake (List Lexeme) :=
  if keyword? tokens = some keyword then .ok tokens.tail
  else .error ⟨tokens.head?, .expecting keyword⟩

/-- What is left behind newlines. -/
def skipNewlines (tokens : List Lexeme) : List Lexeme :=
  tokens.dropWhile (·.token == .newline)

/-- Whether a reserved word ends a list of statements. -/
def endsList (tokens : List Lexeme) : Bool :=
  (keyword? tokens).any fun keyword =>
    ["then", "elif", "else", "fi", "do", "done", "esac", "\x7d"].contains keyword

/-- The assignment that a word is: a name, an equals sign and the value. -/
def assignment? (word : Word) : Option (Bytes × Word) :=
  let isName : Segment → Bool
    | .literal [byte] false => Token.isNameChar (Char.ofNat byte.toNat)
    | _ => false
  let startsWithDigit : Word → Bool
    | .literal [byte] false :: _ => (Char.ofNat byte.toNat).isDigit
    | _ => false
  let name := word.takeWhile isName
  match word.dropWhile isName with
  | .literal [61] false :: value =>
    if name.isEmpty || startsWithDigit name then none else (Word.plain? name).map (·, value)
  | _ => none

/-- Reads redirections. -/
def redirects : List Lexeme → Except Mistake (Part (List Redirect))
  | ⟨.redirect descriptor kind, _⟩ :: ⟨.word target, _⟩ :: rest => do
    let (others, rest) ← redirects rest
    return (⟨descriptor, kind, target⟩ :: others, rest)
  | ⟨.redirect .., _⟩ :: rest => mistake rest
  | rest => .ok ([], rest)

/-- Reads the words and redirections of a simple command. -/
def simple (command : Simple) : List Lexeme → Except Mistake (Part Simple)
  | ⟨.word word, _⟩ :: rest =>
    match command.words, assignment? word with
    | [], some assignment =>
      simple { command with assignments := command.assignments ++ [assignment] } rest
    | _, _ => simple { command with words := command.words ++ [word] } rest
  | ⟨.redirect descriptor kind, _⟩ :: ⟨.word target, _⟩ :: rest =>
    simple { command with redirects := command.redirects ++ [⟨descriptor, kind, target⟩] } rest
  | ⟨.redirect .., _⟩ :: rest => mistake rest
  -- what looks like the beginning of a function
  | tokens@(⟨.sign "(", _⟩ :: _) => mistake tokens
  | rest => .ok (command, rest)

/-- Reads the words that a variable stands for in turn, if they are given. -/
def items (tokens : List Lexeme) : Except Mistake (Part (Option (List Word))) :=
  match expect "in" (skipNewlines tokens) with
  | .error _ =>
    match tokens with
    | ⟨.sign ";", _⟩ :: rest => .ok (none, rest)
    | _ => .ok (none, tokens)
  | .ok rest => do
    let (words, rest) := next rest
    match rest with
    | ⟨.sign ";", _⟩ :: rest | ⟨.newline, _⟩ :: rest => return (some words, rest)
    | _ => mistake rest
where
  /-- Reads words. -/
  next : List Lexeme → List Word × List Lexeme
    | ⟨.word word, _⟩ :: rest =>
      let (words, rest) := next rest
      (word :: words, rest)
    | rest => ([], rest)

/-- The name of the variable of a loop. -/
def loopVariable (tokens : List Lexeme) : Except Mistake (Part Bytes) :=
  match tokens with
  | ⟨.word word, _⟩ :: rest =>
    match word.plain? with
    | some name =>
      let isGood := name.all fun byte => Token.isNameChar (Char.ofNat byte.toNat)
      if isGood && !name.isEmpty && !(name.take 1).all fun byte => 48 ≤ byte && byte ≤ 57 then
        .ok (name, rest)
      else mistake tokens .badLoopVariable
    | none => mistake tokens .badLoopVariable
  | _ => mistake tokens .badLoopVariable

mutual

/-- Reads statements up to a reserved word or sign that goes on with something else; `first` tells
whether at least one has to come. -/
def statements (first : Bool) : Nat → List Lexeme → Except Mistake (Part (List Statement))
  | 0, tokens => mistake tokens
  | fuel + 1, tokens =>
    let tokens := skipNewlines tokens
    if tokens.isEmpty || (!first && endsList tokens) then .ok ([], tokens)
    else do
      let (statement, rest) ← chained fuel tokens
      match rest with
      | ⟨.sign ";", _⟩ :: rest | rest@(⟨.newline, _⟩ :: _) =>
        let (others, rest) ← statements false fuel rest
        return (statement :: others, rest)
      | _ => return ([statement], rest)

/-- Reads commands with `&&` and `||` between them. -/
def chained : Nat → List Lexeme → Except Mistake (Part Statement)
  | 0, tokens => mistake tokens
  | fuel + 1, tokens => do
    let (first, rest) ← negated fuel tokens
    links fuel first rest

/-- Reads what `&&` and `||` add to a statement. -/
def links : Nat → Statement → List Lexeme → Except Mistake (Part Statement)
  | 0, _, tokens => mistake tokens
  | fuel + 1, first, tokens =>
    let goOn (expected : Bool) (rest : List Lexeme) : Except Mistake (Part Statement) := do
      let (second, rest) ← negated fuel (skipNewlines rest)
      links fuel (.chain expected first second) rest
    match tokens with
    | ⟨.sign "&&", _⟩ :: rest => goOn true rest
    | ⟨.sign "||", _⟩ :: rest => goOn false rest
    | _ => .ok (first, tokens)

/-- Reads a command that may have an exclamation mark in front. -/
def negated : Nat → List Lexeme → Except Mistake (Part Statement)
  | 0, tokens => mistake tokens
  | fuel + 1, tokens =>
    if keyword? tokens = some "!" then do
      let (inner, rest) ← command fuel tokens.tail
      return (.negate inner, rest)
    else command fuel tokens

/-- Reads one command. -/
def command : Nat → List Lexeme → Except Mistake (Part Statement)
  | 0, tokens => mistake tokens
  | fuel + 1, tokens =>
    let line := (tokens.head?.map (·.line)).getD 0
    let compound (read : Except Mistake (Part Statement)) : Except Mistake (Part Statement) := do
      let (statement, rest) ← read
      let (bound, rest) ← redirects rest
      return (if bound.isEmpty then statement else .redirected line bound statement, rest)
    match keyword? tokens, tokens with
    | some "if", _ => compound (branches fuel tokens.tail)
    | some "while", _ => compound (repetition true fuel tokens.tail)
    | some "until", _ => compound (repetition false fuel tokens.tail)
    | some "for", _ => compound (enumeration fuel tokens.tail)
    | some "\x7b", _ =>
      compound do
        let (body, rest) ← statements true fuel tokens.tail
        return (.group body, ← expect "\x7d" rest)
    | none, ⟨.word _, _⟩ :: _ | none, ⟨.redirect .., _⟩ :: _ => do
      let (command, rest) ← simple { line } tokens
      return (.simple command, rest)
    | _, _ => mistake tokens

/-- Reads a condition and what depends on it. -/
def branches : Nat → List Lexeme → Except Mistake (Part Statement)
  | 0, tokens => mistake tokens
  | fuel + 1, tokens => do
    let (condition, rest) ← statements true fuel tokens
    let (yes, rest) ← statements true fuel (← expect "then" rest)
    match keyword? rest with
    | some "elif" =>
      let (no, rest) ← branches fuel rest.tail
      return (.choose condition yes [no], rest)
    | some "else" =>
      let (no, rest) ← statements true fuel rest.tail
      return (.choose condition yes no, ← expect "fi" rest)
    | _ => return (.choose condition yes [], ← expect "fi" rest)

/-- Reads a condition and a body. -/
def repetition (expected : Bool) : Nat → List Lexeme → Except Mistake (Part Statement)
  | 0, tokens => mistake tokens
  | fuel + 1, tokens => do
    let (condition, rest) ← statements true fuel tokens
    let (body, rest) ← statements true fuel (← expect "do" rest)
    return (.loop expected condition body, ← expect "done" rest)

/-- Reads a name, the words it stands for in turn, and a body. -/
def enumeration : Nat → List Lexeme → Except Mistake (Part Statement)
  | 0, tokens => mistake tokens
  | fuel + 1, tokens => do
    let (name, rest) ← loopVariable tokens
    let (words, rest) ← items rest
    let (body, rest) ← statements true fuel (← expect "do" (skipNewlines rest))
    return (.forEach name words body, ← expect "done" rest)

end

/-- Enough fuel for a number of tokens: each level of the grammar takes one at most, and no more
than eight levels lie between two tokens. -/
def fuelFor (tokens : List Lexeme) : Nat :=
  8 * tokens.length + 8

/-- Reads the statements of one line, and of the lines that these go on to. -/
def line (tokens : List Lexeme) : Except Mistake (Part (List Statement)) :=
  go tokens.length tokens
where
  /-- Reads statements with semicolons between them. -/
  go : Nat → List Lexeme → Except Mistake (Part (List Statement))
    | _, [] => .ok ([], [])
    | _, ⟨.newline, _⟩ :: rest => .ok ([], rest)
    | 0, tokens => mistake tokens
    | fuel + 1, tokens => do
      let (statement, rest) ← chained (fuelFor tokens) tokens
      match rest with
      | [] => return ([statement], [])
      | ⟨.newline, _⟩ :: rest => return ([statement], rest)
      | ⟨.sign ";", _⟩ :: rest =>
        let (others, rest) ← go fuel rest
        return (statement :: others, rest)
      | _ => mistake rest

end Reader

namespace Mistake

/-- How a reserved word or sign is mentioned. -/
def mention (word : String) : String :=
  "\"" ++ word ++ "\""

/-- What the reader met, in words. -/
def describe : Option Lexeme → String
  | none => "end of file"
  | some lexeme =>
    match lexeme.token with
    | .word _ => ((Reader.keywordOf? lexeme.token).map mention).getD "word"
    | .newline => "newline"
    | .redirect .. => "redirection"
    | .sign text => mention text
    | .openQuote => "word"

/-- The mistake in words. -/
def message (mistake : Mistake) : String :=
  "Syntax error: " ++
    if mistake.found.any (·.token == .openQuote) then "Unterminated quoted string"
    else
      match mistake.reason with
      | .unexpected => describe mistake.found ++ " unexpected"
      | .expecting keyword =>
        describe mistake.found ++ " unexpected (expecting " ++ mention keyword ++ ")"
      | .badLoopVariable => "Bad for loop variable"

end Mistake

end JobShell.Script
