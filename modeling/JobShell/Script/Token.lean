import JobShell.Script.Syntax

/-!
# JobShell.Script.Token — the words and signs of a script

A script is read byte by byte, and a byte is taken as the character of its number. Blanks separate
words, `#` at the beginning of a word starts a comment, and quotes and backslashes keep characters
from having a meaning. A script whose last quote is not closed ends in a token that says so.
-/

namespace JobShell.Script

/-- A word or sign of a script. -/
inductive Token where
  | word (word : Word)
  | newline
  | redirect (descriptor : Nat) (kind : RedirectionKind)
  /-- A sign of one or two characters. -/
  | sign (text : String)
  /-- A quote that is never closed. -/
  | openQuote
deriving DecidableEq, Repr

/-- A token and the line where it ends; a newline ends on the line after it. -/
structure Lexeme where
  token : Token
  line : Nat
deriving DecidableEq, Repr

/-- The characters of a script. -/
def chars (script : Bytes) : List Char :=
  script.map fun byte => Char.ofNat byte.toNat

/-- The bytes of characters that came from bytes. -/
def bytes (text : List Char) : Bytes :=
  text.map fun c => c.toNat.toUInt8

namespace Token

/-- Whether a character ends a word. -/
def endsWord (c : Char) : Bool :=
  [' ', '\t', '\n', ';', '&', '|', '<', '>', '(', ')'].contains c

/-- Whether a character can be in the name of a variable. -/
def isNameChar (c : Char) : Bool :=
  c.isAlphanum || c == '_'

/-- The number that digits stand for. -/
def number (digits : List Char) : Nat :=
  digits.foldl (fun n c => n * 10 + (c.toNat - 48)) 0

/-- The parameter that a name in braces or behind a dollar sign means. -/
def parameterOfName (name : List Char) : Parameter :=
  match name with
  | ['#'] => .count
  | ['@'] => .every
  | ['*'] => .joined
  | ['$'] => .process
  | ['?'] => .status
  | _ => if name.all Char.isDigit then .positional (number name) else .variable (bytes name)

/-- The parameter at the beginning of what follows a dollar sign, and what is left behind it. -/
def parameter? : List Char → Option (Parameter × List Char)
  | '\x7b' :: rest =>
    some (parameterOfName (rest.takeWhile (· != '\x7d')), (rest.dropWhile (· != '\x7d')).drop 1)
  | c :: rest =>
    if ['#', '@', '*', '$', '?'].contains c || c.isDigit then some (parameterOfName [c], rest)
    else if isNameChar c then
      some (parameterOfName ((c :: rest).takeWhile isNameChar), rest.dropWhile isNameChar)
    else none
  | [] => none

/-- Reads a word up to the character that ends it; `quoted` tells whether the reader stands between
double quotes. Nothing is answered if a quote is not closed. -/
def readWord : (fuel : Nat) → (quoted : Bool) → List Char → Option (Word × List Char)
  | 0, _, _ => none
  | _, false, [] => some ([], [])
  | _, true, [] => none
  | fuel + 1, false, c :: rest =>
    match c, rest with
    | '\\', '\n' :: rest => readWord fuel false rest
    | '\\', c :: rest => add (.literal (bytes [c]) true) (readWord fuel false rest)
    | '\'', rest =>
      match rest.dropWhile (· != '\'') with
      | [] => none
      | _ :: behind =>
        add (.literal (bytes (rest.takeWhile (· != '\''))) true) (readWord fuel false behind)
    | '"', '"' :: rest => add (.literal [] true) (readWord fuel false rest)
    | '"', rest => readWord fuel true rest
    | '$', rest =>
      match parameter? rest with
      | some (parameter, rest) => add (.parameter parameter false) (readWord fuel false rest)
      | none => add (.literal (bytes ['$']) false) (readWord fuel false rest)
    | c, rest =>
      if endsWord c then some ([], c :: rest)
      else add (.literal (bytes [c]) false) (readWord fuel false rest)
  | fuel + 1, true, c :: rest =>
    match c, rest with
    | '"', rest => readWord fuel false rest
    | '\\', '\n' :: rest => readWord fuel true rest
    | '\\', c :: rest =>
      if ['$', '"', '\\', Char.ofNat 96].contains c then
        add (.literal (bytes [c]) true) (readWord fuel true rest)
      else add (.literal (bytes ['\\', c]) true) (readWord fuel true rest)
    | '$', rest =>
      match parameter? rest with
      | some (parameter, rest) => add (.parameter parameter true) (readWord fuel true rest)
      | none => add (.literal (bytes ['$']) true) (readWord fuel true rest)
    | c, rest => add (.literal (bytes [c]) true) (readWord fuel true rest)
where
  /-- Puts a segment in front of a word. -/
  add (segment : Segment) (read : Option (Word × List Char)) : Option (Word × List Char) :=
    read.map fun (segments, rest) => (segment :: segments, rest)

/-- The redirection whose sign starts with an angle, and what is left behind it. -/
def redirection (descriptor : Option Nat) (angle : Char) (rest : List Char) :
    Token × List Char :=
  match angle, rest with
  | '>', '>' :: rest => (.redirect (descriptor.getD 1) .append, rest)
  | '>', '&' :: rest => (.redirect (descriptor.getD 1) .duplicate, rest)
  | '>', '|' :: rest => (.redirect (descriptor.getD 1) .output, rest)
  | '<', '&' :: rest => (.redirect (descriptor.getD 0) .duplicate, rest)
  | '>', rest => (.redirect (descriptor.getD 1) .output, rest)
  | _, rest => (.redirect (descriptor.getD 0) .input, rest)

/-- The token at the beginning of characters that are neither blank nor the start of a comment, and
what is left behind it. -/
def next : List Char → Token × List Char
  | [] => (.newline, [])
  | '\n' :: rest => (.newline, rest)
  | ';' :: ';' :: rest => (.sign ";;", rest)
  | '&' :: '&' :: rest => (.sign "&&", rest)
  | '|' :: '|' :: rest => (.sign "||", rest)
  | c :: rest =>
    let angle (c : Char) : Bool := c == '<' || c == '>'
    match c.isDigit, rest with
    | true, second :: behind =>
      if angle second then redirection (some (number [c])) second behind else wordOr c rest
    | _, _ =>
      if angle c then redirection none c rest
      else if endsWord c then (.sign (String.singleton c), rest)
      else wordOr c rest
where
  /-- Reads a word. -/
  wordOr (c : Char) (rest : List Char) : Token × List Char :=
    match readWord (rest.length + 2) false (c :: rest) with
    | some (segments, rest) => (.word segments, rest)
    | none => (.openQuote, [])

/-- The number of newlines in what was read, from what was left before and after. -/
def newlines (before after : List Char) : Nat :=
  before.count '\n' - after.count '\n'

/-- Cuts what follows on a line, and all lines behind it, into tokens. -/
def readAll : (fuel : Nat) → (line : Nat) → List Char → List Lexeme
  | 0, _, _ => []
  | _, _, [] => []
  | fuel + 1, line, c :: rest =>
    match c, rest with
    | ' ', rest | '\t', rest => readAll fuel line rest
    | '\\', '\n' :: rest => readAll fuel (line + 1) rest
    | '#', rest => readAll fuel line (rest.dropWhile (· != '\n'))
    | c, rest =>
      let (token, behind) := next (c :: rest)
      let line := line + newlines (c :: rest) behind
      ⟨token, line⟩ :: readAll fuel line behind

/-- The tokens of a script. NULs in it are passed over. -/
def ofScript (script : Bytes) : List Lexeme :=
  readAll (script.length + 1) 1 (chars (script.filter (· != 0)))

end Token

end JobShell.Script
