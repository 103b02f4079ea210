import JobShell.Text.Bytes
import JobShell.Text.Decimal

/-!
# JobShell.Text.Numeral — numbers among bytes
-/

namespace JobShell.Text

/-- The number that digits stand for in a base of at most ten; nothing if a byte is no digit of that
base, or if there is none. -/
def numeral? (base : Nat) (bytes : Bytes) : Option Nat :=
  let isDigit (byte : UInt8) : Bool := 48 ≤ byte.toNat && byte.toNat < 48 + base
  if bytes.isEmpty || !bytes.all isDigit then none
  else some (bytes.foldl (fun n byte => n * base + (byte.toNat - 48)) 0)

/-- The integer that a number in base ten stands for, with at most one sign in front. -/
def integer? (bytes : Bytes) : Option Int :=
  match bytes with
  | 45 :: digits => (numeral? 10 digits).map fun n => -(n : Int)
  | 43 :: digits => (numeral? 10 digits).map fun n => (n : Int)
  | digits => (numeral? 10 digits).map fun n => (n : Int)

/-- A number in base ten. -/
def numeral (n : Nat) : Bytes :=
  utf8 (Decimal.text n)

end JobShell.Text
