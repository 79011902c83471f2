/-
Module: Bytemark.Text.Number
Purpose: Reading whole numbers that a user typed.
Trusted boundary: none
Main exports: Text.digitsValue, Text.natural, Text.integer
-/

namespace Bytemark.Text

/-!
No number that is asked for has more than 64 bits, and so none has more than
twenty digits that count.
-/

/-- The most digits that a number may have. -/
def longestNumber : Nat := 20

/-- The number that decimal digits stand for; at least one digit is needed, and
zeros in front do not count. -/
def digitsValue (digits : List Char) : Option Nat :=
  let counted := digits.dropWhile (· == '0')
  if digits.isEmpty || !digits.all Char.isDigit || longestNumber < counted.length then none
  else some (counted.foldl (fun value c => value * 10 + (c.toNat - 0x30)) 0)

/-- A number without a sign or with a plus sign. -/
def natural : List Char → Option Nat
  | '+' :: digits => digitsValue digits
  | digits => digitsValue digits

/-- A number with or without a sign. -/
def integer : List Char → Option Int
  | '-' :: digits => (digitsValue digits).map fun value => -(value : Int)
  | digits => (natural digits).map fun value => (value : Int)

end Bytemark.Text
