/-
Module: Bytemark.Text.Blank
Purpose: Characters with the Unicode property White_Space, and trimming them.
Trusted boundary: none
Main exports: isBlank, trim
-/

namespace Bytemark.Text

/-- The Unicode property White_Space.  It is wider than the blank of program
texts: the no-break spaces, the typographic spaces and the two separators
belong to it. -/
def isBlank (c : Char) : Bool :=
  let code := c.toNat
  (0x09 ≤ code && code ≤ 0x0D) || code == 0x20 || code == 0x85 || code == 0xA0 ||
    code == 0x1680 || (0x2000 ≤ code && code ≤ 0x200A) || code == 0x2028 ||
    code == 0x2029 || code == 0x202F || code == 0x205F || code == 0x3000

/-- The text without the blanks at either end. -/
def trim (text : List Char) : List Char :=
  ((text.dropWhile isBlank).reverse.dropWhile isBlank).reverse

end Bytemark.Text
