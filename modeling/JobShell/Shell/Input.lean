import JobShell.System.Failure
import JobShell.Text.Lines

/-!
# JobShell.Shell.Input — lines from a source of bytes

A source delivers its bytes in pieces and may fail in between. An interruption is passed over, even
in the middle of a line; any other failure ends the line that was being read, and what had been read
of it is lost. A line has to be valid UTF-8.
-/

namespace JobShell

/-- What a source delivers next. -/
inductive Piece where
  | bytes (bytes : Bytes)
  | interrupted
  | failure (failure : Failure)
deriving DecidableEq, Repr

namespace Text

/-- Splits bytes behind the first newline; nothing if there is none. -/
def splitLine? (bytes : Bytes) : Option (Bytes × Bytes) :=
  match bytes.dropWhile (· != newline) with
  | [] => none
  | _ :: rest => some (bytes.takeWhile (· != newline) ++ [newline], rest)

/-- The text of a line; there is none at the end of the input, where nothing was read. -/
def line? (bytes : Bytes) : Except Failure (Option String) :=
  if bytes.isEmpty then .ok none
  else
    match ofUtf8? bytes with
    | some text => .ok (some text)
    | none => .error .notText

end Text

namespace Piece

/-- Takes the bytes of the next line from the pieces, behind bytes that are known already. -/
def takeLine (known : Bytes) : List Piece → Except Failure Bytes × List Piece
  | [] => (.ok known, [])
  | .interrupted :: pieces => takeLine known pieces
  | .failure reason :: pieces => (.error reason, pieces)
  | .bytes chunk :: pieces =>
    match Text.splitLine? chunk with
    | none => takeLine (known ++ chunk) pieces
    | some (line, rest) => (.ok (known ++ line), .bytes rest :: pieces)

/-- The next line of the pieces, or none at their end. -/
def readLine (pieces : List Piece) : Except Failure (Option String) × List Piece :=
  let (line, pieces) := takeLine [] pieces
  (line.bind Text.line?, pieces)

/-- More than the number of lines and failures in the pieces. -/
def bound (pieces : List Piece) : Nat :=
  pieces.foldl
    (fun total piece =>
      match piece with
      | .bytes chunk => total + chunk.length + 1
      | _ => total + 1)
    1

end Piece

end JobShell
