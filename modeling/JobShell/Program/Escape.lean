import JobShell.Text.Numeral

/-!
# JobShell.Program.Escape — characters written with a backslash

A backslash and the letters behind it stand for one byte: a control character by its letter, or any
byte by its number in base eight; where escapes are `extended`, also in base sixteen. One escape
stands for no byte but ends the text.
-/

namespace JobShell.Program

/-- The control characters that have a letter. -/
def controlLetters : List (UInt8 × UInt8) :=
  [(92, 92), (97, 7), (98, 8), (101, 27), (102, 12), (110, 10), (114, 13), (116, 9), (118, 11)]

/-- The value of a digit in base sixteen. -/
def hexDigit? (byte : UInt8) : Option Nat :=
  if 48 ≤ byte && byte ≤ 57 then some (byte.toNat - 48)
  else if 65 ≤ byte && byte ≤ 70 then some (byte.toNat - 55)
  else if 97 ≤ byte && byte ≤ 102 then some (byte.toNat - 87)
  else none

/-- The byte at the beginning of a text that is written with at most `limit` digits, and what is
behind them. Numbers that are too large begin again at zero. -/
def numbered (base limit : Nat) (text : Bytes) : UInt8 × Bytes :=
  let digits := (text.take limit).takeWhile fun byte => (hexDigit? byte).any (· < base)
  let value := digits.foldl (fun n digit => n * base + (hexDigit? digit).getD 0) 0
  (value.toUInt8, text.drop digits.length)

/-- The byte that stands behind a backslash, and what is behind it. -/
def escaped? (extended : Bool) (text : Bytes) : Option (UInt8 × Bytes) :=
  let isDigit (base : Nat) (byte : UInt8) : Bool := (hexDigit? byte).any (· < base)
  match text with
  | [] => none
  | letter :: rest =>
    match controlLetters.lookup letter with
    | some byte => some (byte, rest)
    | none =>
      if letter = 48 then some (numbered 8 3 rest)
      else if isDigit 8 letter then some (numbered 8 3 text)
      else if extended && letter = 120 && rest.head?.any (isDigit 16) then
        some (numbered 16 2 rest)
      else none

/-- A text with its escapes replaced by bytes, and whether one of them ended it. -/
def unescape (extended : Bool) : (fuel : Nat) → Bytes → Bytes × Bool
  | 0, text => (text, false)
  | fuel + 1, text =>
    let add (byte : UInt8) (rest : Bytes) : Bytes × Bool :=
      let (behind, ended) := unescape extended fuel rest
      (byte :: behind, ended)
    match text with
    | [] => ([], false)
    | 92 :: 99 :: _ => ([], true)
    | 92 :: rest =>
      match escaped? extended rest with
      | some (byte, behind) => add byte behind
      | none => add 92 rest
    | byte :: rest => add byte rest

end JobShell.Program
