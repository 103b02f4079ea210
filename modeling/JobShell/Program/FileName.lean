import JobShell.Text.Bytes

/-!
# JobShell.Program.FileName — file names in complaints

Programs mention a file in a form that could be given to `sh`: a name that needs no quotes is left
alone unless quotes are asked for, and a name that needs them stands between single quotes. A single
quote in it is taken out of the quotes and escaped; if it is the only trouble, double quotes are
used instead. Control characters and bytes beyond ASCII are written by number in pieces that start
with `$`.
-/

namespace JobShell.Program.FileName

/-- Whether a byte is shown as a character. -/
def isShown (byte : UInt8) : Bool :=
  32 ≤ byte && byte < 127

/-- Whether a byte never has a meaning of its own to `sh`. -/
def isPlain (byte : UInt8) : Bool :=
  let c := Char.ofNat byte.toNat
  c.isAlphanum || (Text.utf8 "%+,-./:]_@").contains byte

/-- Whether a byte has a meaning of its own only as the first of a name. -/
def isMarker (byte : UInt8) : Bool :=
  byte == 35 || byte == 126

/-- Whether a name can be given to `sh` without quotes. -/
def needsNoQuotes : Bytes → Bool
  | [] => false
  | [123] | [125] => false
  | first :: rest =>
    let isTame (byte : UInt8) : Bool := isPlain byte || byte == 123 || byte == 125
    isTame first && rest.all fun byte => isTame byte || isMarker byte

/-- The byte of a single quote. -/
def quote : UInt8 := 39

/-- How a byte that is not shown is written by number. -/
def escape (byte : UInt8) : Bytes :=
  match byte with
  | 9 => Text.utf8 "\\t"
  | 10 => Text.utf8 "\\n"
  | 13 => Text.utf8 "\\r"
  | 7 => Text.utf8 "\\a"
  | 8 => Text.utf8 "\\b"
  | 11 => Text.utf8 "\\v"
  | 12 => Text.utf8 "\\f"
  | _ => [92, 48 + byte / 64, 48 + byte / 8 % 8, 48 + byte % 8]

/-- What stands between the outer quotes; `escaped` tells whether the byte before was written by
number. -/
def inside (escaped : Bool) : Bytes → Bytes
  | [] => []
  | byte :: rest =>
    if !isShown byte then
      (if escaped then [] else [quote, 36, quote]) ++ escape byte ++ inside true rest
    else
      (if escaped && byte != quote then [quote, quote] else [])
        ++ (if byte = quote then [quote, 92, quote, quote] else [byte]) ++ inside false rest

/-- A name between quotes. -/
def always (name : Bytes) : Bytes :=
  let isMild (byte : UInt8) : Bool := isPlain byte || byte == quote || byte == 32
  if name.contains quote && name.all isMild then [34] ++ name ++ [34]
  else [quote] ++ inside false name ++ [quote]

/-- A name, between quotes if it needs them. -/
def asNeeded (name : Bytes) : Bytes :=
  if needsNoQuotes name then name else always name

end JobShell.Program.FileName
