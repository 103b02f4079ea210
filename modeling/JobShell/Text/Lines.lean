import JobShell.Text.Bytes

/-!
# JobShell.Text.Lines — bytes cut after each newline

The lines of a byte string, put together again, are the byte string. Only the last line may lack
its newline, and then it is not empty.
-/

namespace JobShell.Text

/-- The byte that ends a line. -/
def newline : UInt8 := 10

/-- The lines of bytes, cut from the end: one more byte in front. -/
def consLine (byte : UInt8) (lines : List Bytes) : List Bytes :=
  if byte = newline then [newline] :: lines
  else
    match lines with
    | line :: rest => (byte :: line) :: rest
    | [] => [[byte]]

/-- The lines of bytes, each with the newline that ends it. -/
def lines (bytes : Bytes) : List Bytes :=
  bytes.foldr consLine []

@[simp] theorem flatten_lines (bytes : Bytes) : (lines bytes).flatten = bytes := by
  induction bytes with
  | nil => rfl
  | cons byte rest ih =>
    have hstep : lines (byte :: rest) = consLine byte (lines rest) := rfl
    rw [hstep]
    unfold consLine
    split
    · simp_all
    · cases h : lines rest <;> simp_all

end JobShell.Text
