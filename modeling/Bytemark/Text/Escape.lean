/-
Module: Bytemark.Text.Escape
Purpose: Quoted forms of characters and texts in messages.
Trusted boundary: none
Main exports: escape, quotedCharacter, quotedText
-/
import Bytemark.Text.Unseen

namespace Bytemark.Text

/-- The escape that names a character by its code. -/
def codeEscape (c : Char) : String :=
  "\\u\x7b" ++ String.ofList (Nat.toDigits 16 c.toNat) ++ "\x7d"

/-- One character between quotes.  The quote in use and the backslash are
escaped, the common controls have letters, and a character that would not be
seen is named by its code. -/
def escape (quote : Char) (c : Char) : String :=
  if c == Char.ofNat 0 then "\\0"
  else if c == '\t' then "\\t"
  else if c == '\r' then "\\r"
  else if c == '\n' then "\\n"
  else if c == '\\' || c == quote then String.ofList ['\\', c]
  else if isUnseen c then codeEscape c
  else c.toString

/-- A character between single quotes. -/
def quotedCharacter (c : Char) : String :=
  "'" ++ escape '\'' c ++ "'"

/-- A text between double quotes. -/
def quotedText (text : String) : String :=
  let body := String.join (text.toList.map (escape '"'))
  "\"" ++ body ++ "\""

end Bytemark.Text
