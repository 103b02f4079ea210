/-!
# JobShell.Text.Decimal — integers in base ten

Numbers appear in messages in their shortest decimal form: no leading zeros, a minus sign in front
of negative numbers, and `0` for zero.
-/

namespace JobShell.Text.Decimal

/-- The character of a digit below ten. -/
def digit (n : Nat) : Char :=
  Char.ofNat (48 + n)

/-- The digits of a natural number, most significant first. -/
def digits (n : Nat) : List Char :=
  if n < 10 then [digit n] else digits (n / 10) ++ [digit (n % 10)]

/-- An integer in its shortest form. -/
def chars : Int → List Char
  | .ofNat n => digits n
  | .negSucc n => '-' :: digits (n + 1)

/-- An integer in its shortest form, as a text. -/
def text (n : Int) : String :=
  String.ofList (chars n)

end JobShell.Text.Decimal
