/-
Module: Bytemark.Toml.Text
Purpose: TOML strings: how they are read and in which form they are written.
Trusted boundary: none
Main exports: Toml.clean, Toml.readBasic, Toml.readLiteral, Toml.readBlock,
  Toml.readLiteralBlock, Toml.readString, Toml.Form, Toml.Form.of, Toml.written
-/

namespace Bytemark.Toml

/-!
A string can be written between double or single quotes, on one line or over
several.  Between single quotes every character stands for itself; between
double quotes a backslash starts an escape.  A form over several lines may
begin with a line break that does not count, and may hold up to two of its
quotes in a row, at its end included.

Documents are cleaned before they are read: a line break is a single LF, and
no control characters but LF and tab are left.  The readers below rely on it.
-/

/-! ## Characters of a document -/

/-- Controls that may not stand in a document as they are. -/
def isControl (c : Char) : Bool :=
  (c.toNat < 0x20 && c != '\t' && c != '\n') || c.toNat == 0x7F

/-- The text with LF for every CR LF, if no other control stands in it. -/
def clean : List Char → Option (List Char)
  | [] => some []
  | '\r' :: '\n' :: rest => (clean rest).map ('\n' :: ·)
  | c :: rest => if isControl c then none else (clean rest).map (c :: ·)

/-! ## Reading -/

/-- The value of a hexadecimal digit. -/
def hexValue (c : Char) : Option Nat :=
  if '0' ≤ c && c ≤ '9' then some (c.toNat - 0x30)
  else if 'a' ≤ c && c ≤ 'f' then some (c.toNat - 0x61 + 10)
  else if 'A' ≤ c && c ≤ 'F' then some (c.toNat - 0x41 + 10)
  else none

/-- The character of a code, if there is one. -/
def scalar (code : Nat) : Option Char :=
  if code < 0xD800 || (0xDFFF < code && code < 0x110000) then some (Char.ofNat code)
  else none

/-- Where a reader stands inside an escape. -/
inductive Escape where
  | outside
  | afterBackslash
  /-- So many hexadecimal digits are missing behind this value. -/
  | digits (missing : Nat) (value : Nat)
  /-- A backslash at the end of a line, whose break has not come yet. -/
  | lineEnd
  /-- Blanks after a break that was escaped. -/
  | lineStart
deriving Repr, Inhabited, DecidableEq

/-- The character that a letter after a backslash stands for. -/
def escaped (c : Char) : Option Char :=
  match c with
  | 'b' => some (Char.ofNat 8)
  | 't' => some '\t'
  | 'n' => some '\n'
  | 'f' => some (Char.ofNat 12)
  | 'r' => some '\r'
  | '"' => some '"'
  | '\\' => some '\\'
  | _ => none

/-- The state after the character that follows a backslash, and the character
that it completes. -/
def afterBackslash (c : Char) : Option (Escape × Option Char) :=
  if c == 'u' then some (.digits 4 0, none)
  else if c == 'U' then some (.digits 8 0, none)
  else (escaped c).map fun character => (.outside, some character)

/-- The state after one more hexadecimal digit. -/
def afterDigit (missing value : Nat) (c : Char) : Option (Escape × Option Char) := do
  let digit ← hexValue c
  let value := value * 16 + digit
  if missing ≤ 1 then
    let character ← scalar value
    some (.outside, some character)
  else some (.digits (missing - 1) value, none)

/-- Puts a completed character on top of those read before. -/
def push (read : List Char) : Option Char → List Char
  | some c => c :: read
  | none => read

/-- Reads a string on one line up to its double quote. -/
def readBasic (escape : Escape) (read : List Char) :
    List Char → Option (List Char × List Char)
  | [] => none
  | c :: rest =>
      match escape with
      | .outside =>
          if c == '"' then some (read.reverse, rest)
          else if c == '\\' then readBasic .afterBackslash read rest
          else if c == '\n' then none
          else readBasic .outside (c :: read) rest
      | .afterBackslash => do
          let (next, character) ← afterBackslash c
          readBasic next (push read character) rest
      | .digits missing value => do
          let (next, character) ← afterDigit missing value c
          readBasic next (push read character) rest
      | .lineEnd | .lineStart => none

/-- Reads a string on one line up to its single quote. -/
def readLiteral (read : List Char) : List Char → Option (List Char × List Char)
  | [] => none
  | c :: rest =>
      if c == '\'' then some (read.reverse, rest)
      else if c == '\n' then none
      else readLiteral (c :: read) rest

/-- Quotes in a row that did not end a string belong to it. -/
def keepQuotes (quote : Char) (quotes : Nat) (read : List Char) : List Char :=
  List.replicate quotes quote ++ read

/-- Reads a string over several lines up to its three double quotes, of which
`quotes` were seen. -/
def readBlock (escape : Escape) (quotes : Nat) (read : List Char) :
    List Char → Option (List Char × List Char)
  | [] =>
      if 3 ≤ quotes then some ((keepQuotes '"' (quotes - 3) read).reverse, []) else none
  | c :: rest =>
      match escape with
      | .outside | .lineStart =>
          if escape == .lineStart && (c == ' ' || c == '\t' || c == '\n') then
            readBlock .lineStart 0 read rest
          else if c == '"' then
            if quotes == 4 then some ((keepQuotes '"' 2 read).reverse, rest)
            else readBlock .outside (quotes + 1) read rest
          else if 3 ≤ quotes then
            some ((keepQuotes '"' (quotes - 3) read).reverse, c :: rest)
          else if c == '\\' then
            readBlock .afterBackslash 0 (keepQuotes '"' quotes read) rest
          else readBlock .outside 0 (c :: keepQuotes '"' quotes read) rest
      | .afterBackslash =>
          if c == '\n' then readBlock .lineStart 0 read rest
          else if c == ' ' || c == '\t' then readBlock .lineEnd 0 read rest
          else do
            let (next, character) ← afterBackslash c
            readBlock next 0 (push read character) rest
      | .digits missing value => do
          let (next, character) ← afterDigit missing value c
          readBlock next 0 (push read character) rest
      | .lineEnd =>
          if c == '\n' then readBlock .lineStart 0 read rest
          else if c == ' ' || c == '\t' then readBlock .lineEnd 0 read rest
          else none

/-- Reads a string over several lines up to its three single quotes, of which
`quotes` were seen. -/
def readLiteralBlock (quotes : Nat) (read : List Char) :
    List Char → Option (List Char × List Char)
  | [] =>
      if 3 ≤ quotes then some ((keepQuotes '\'' (quotes - 3) read).reverse, []) else none
  | c :: rest =>
      if c == '\'' then
        if quotes == 4 then some ((keepQuotes '\'' 2 read).reverse, rest)
        else readLiteralBlock (quotes + 1) read rest
      else if 3 ≤ quotes then
        some ((keepQuotes '\'' (quotes - 3) read).reverse, c :: rest)
      else readLiteralBlock 0 (c :: keepQuotes '\'' quotes read) rest

/-- The line break that a form over several lines may begin with. -/
def skipBreak : List Char → List Char
  | '\n' :: rest => rest
  | rest => rest

/-- Reads a string in any of its forms, from its first quote on. -/
def readString : List Char → Option (List Char × List Char)
  | '"' :: '"' :: '"' :: rest => readBlock .outside 0 [] (skipBreak rest)
  | '\'' :: '\'' :: '\'' :: rest => readLiteralBlock 0 [] (skipBreak rest)
  | '"' :: rest => readBasic .outside [] rest
  | '\'' :: rest => readLiteral [] rest
  | _ => none

/-! ## Writing -/

/-- The forms in which a string is written. -/
inductive Form where
  /-- Between double quotes; only a tab is escaped. -/
  | plain
  /-- Between single quotes. -/
  | literal
  /-- Over several lines between double quotes, without escapes but for a tab. -/
  | block
  /-- Over several lines between single quotes. -/
  | literalBlock
  /-- Over several lines between double quotes, with escapes. -/
  | escapedBlock
  /-- Between double quotes, with escapes. -/
  | escapedPlain
deriving Repr, Inhabited, DecidableEq

/-- Whether a quote stands three times in a row. -/
def hasThree (quote : Char) : List Char → Bool
  | [] => false
  | c :: rest => [quote, quote, quote].isPrefixOf (c :: rest) || hasThree quote rest

/-- The first form that the string fits into. -/
def Form.of (text : List Char) : Form :=
  let controls := text.any isControl
  let breaks := text.contains '\n'
  if !breaks && !controls && !text.contains '"' && !text.contains '\\' then .plain
  else if !breaks && !controls && !text.contains '\'' then .literal
  else if !controls && !text.contains '\\' && !hasThree '"' text then .block
  else if !controls && !hasThree '\'' text then .literalBlock
  else if breaks then .escapedBlock
  else .escapedPlain

/-- A hexadecimal digit in upper case. -/
def hexDigit (value : Nat) : Char :=
  if value < 10 then Char.ofNat (0x30 + value) else Char.ofNat (0x41 + (value - 10))

/-- A character between double quotes.  What cannot stand there is escaped. -/
def escapeChar (c : Char) : List Char :=
  if c == '\\' then ['\\', '\\']
  else if c == '\t' then ['\\', 't']
  else if c == '\r' then ['\\', 'r']
  else if c.toNat == 8 then ['\\', 'b']
  else if c.toNat == 12 then ['\\', 'f']
  else if isControl c then
    ['\\', 'u', '0', '0', hexDigit (c.toNat / 16), hexDigit (c.toNat % 16)]
  else [c]

/-- The inside of a string on one line. -/
def escapeLine (text : List Char) : List Char :=
  text.flatMap fun c =>
    if c == '\n' then ['\\', 'n'] else if c == '"' then ['\\', '"'] else escapeChar c

/-- The inside of a string over several lines: the third of three quotes in a
row is escaped, so that they do not end the string. -/
def escapeBlock (quotes : Nat) : List Char → List Char
  | [] => []
  | c :: rest =>
      if c == '"' then
        if quotes == 2 then '\\' :: '"' :: escapeBlock 0 rest
        else '"' :: escapeBlock (quotes + 1) rest
      else escapeChar c ++ escapeBlock 0 rest

/-- The line break after the opening quotes, for a string with line breaks. -/
def opening (text : List Char) : List Char :=
  if text.contains '\n' then ['\n'] else []

/-- The string as it is written. -/
def written (text : List Char) : List Char :=
  match Form.of text with
  | .plain => ['"'] ++ text.flatMap escapeChar ++ ['"']
  | .literal => ['\''] ++ text ++ ['\'']
  | .block => ['"', '"', '"'] ++ opening text ++ text.flatMap escapeChar ++ ['"', '"', '"']
  | .literalBlock => ['\'', '\'', '\''] ++ opening text ++ text ++ ['\'', '\'', '\'']
  | .escapedBlock => ['"', '"', '"'] ++ opening text ++ escapeBlock 0 text ++ ['"', '"', '"']
  | .escapedPlain => ['"'] ++ escapeLine text ++ ['"']

end Bytemark.Toml
