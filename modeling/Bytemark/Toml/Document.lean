/-
Module: Bytemark.Toml.Document
Purpose: Reading a TOML document.
Trusted boundary: none
Main exports: Toml.readKey, Toml.readValue, Toml.Draft, Toml.Draft.enter, Toml.Draft.finish,
  Toml.read
-/
import Bytemark.Toml.Scalar
import Bytemark.Toml.Value

namespace Bytemark.Toml

/-!
A document is a row of lines: comments, headers and pairs of a key and a value.
Values in brackets may go over several lines, values in braces may not.

Readers take what they need from the front of the text and give back the rest;
`none` means that the text is not TOML.  Keys with many parts and values nested
deeply are refused, since they would exhaust the readers of the result.
-/

/-! ## Blanks and comments -/

/-- The text behind its blanks. -/
def skipBlanks (text : List Char) : List Char :=
  text.dropWhile fun c => c == ' ' || c == '\t'

/-- The text behind a comment, if one starts here: the end of the line stays. -/
def skipComment : List Char → List Char
  | '#' :: rest => rest.dropWhile (· != '\n')
  | text => text

/-- The text behind blanks, a comment and the end of the line. -/
def endLine (text : List Char) : Option (List Char) :=
  match skipComment (skipBlanks text) with
  | [] => some []
  | '\n' :: rest => some rest
  | _ => none

/-- The text behind blanks, comments and line breaks; `inComment` tells that
the text starts inside a comment. -/
def skipLines (inComment : Bool) : List Char → List Char
  | [] => []
  | c :: rest =>
      if c == '\n' then skipLines false rest
      else if inComment then skipLines true rest
      else if c == '#' then skipLines true rest
      else if c == ' ' || c == '\t' then skipLines false rest
      else c :: rest

/-! ## Keys -/

/-- Characters of a key without quotes. -/
def isBareChar (c : Char) : Bool := c.isAlphanum || c == '_' || c == '-'

/-- Reads one part of a key. -/
def readName : List Char → Option (String × List Char)
  | '"' :: rest => (readBasic .outside [] rest).map fun (name, rest) => (String.ofList name, rest)
  | '\'' :: rest => (readLiteral [] rest).map fun (name, rest) => (String.ofList name, rest)
  | text =>
      let (name, rest) := text.span isBareChar
      if name.isEmpty then none else some (String.ofList name, rest)

/-- Nesting at which keys and values are refused. -/
def deepest : Nat := 80

/-- A key: the names before its last dot, and the name behind it. -/
structure Key where
  above : List String
  name : String
deriving Repr, Inhabited, DecidableEq

/-- Reads the parts of a key, which dots separate, if there are not more than
`room` of them. -/
def readKey : Nat → List Char → Option (Key × List Char)
  | 0, _ => none
  | room + 1, text => do
      let (name, text) ← readName (skipBlanks text)
      match skipBlanks text with
      | '.' :: rest => do
          let (key, rest) ← readKey room rest
          some ({ key with above := name :: key.above }, rest)
      | rest => some (⟨[], name⟩, rest)

/-- Reads a key, the sign of equality and the blanks behind it. -/
def readEquals (text : List Char) : Option (Key × List Char) := do
  let (key, text) ← readKey (deepest - 1) text
  let text ← skip '=' text
  some (key, skipBlanks text)

/-! ## Values -/

/-- The value that a scalar is. -/
def Scalar.toValue : Scalar → Value
  | .boolean value => .boolean value
  | .integer value => .integer value
  | .float literal => .float (String.ofList literal)
  | .date literal => .date (String.ofList literal)

mutual

/-- Reads a value; `room` is how far it may still be nested, and every step
takes one of `fuel`. -/
def readValue (fuel room : Nat) (text : List Char) : Option (Value × List Char) :=
  match fuel with
  | 0 => none
  | fuel + 1 =>
      match text with
      | '"' :: _ | '\'' :: _ =>
          (readString text).map fun (value, rest) => (.string (String.ofList value), rest)
      | '[' :: rest =>
          if room == 0 then none
          else
            match skipLines false rest with
            | ']' :: rest => some (.array [], rest)
            | rest => readItems fuel (room - 1) [] rest
      | '{' :: rest =>
          if room == 0 then none
          else
            match skipBlanks rest with
            | '}' :: rest => some (.table .inline [], rest)
            | rest => readMembers fuel (room - 1) [] rest
      | _ => (readScalar text).map fun (scalar, rest) => (scalar.toValue, rest)

/-- Reads items up to the closing bracket; the last comma may be idle. -/
def readItems (fuel room : Nat) (read : List Value) (text : List Char) :
    Option (Value × List Char) :=
  match fuel with
  | 0 => none
  | fuel + 1 => do
      let (value, text) ← readValue fuel room text
      match skipLines false text with
      | ']' :: rest => some (.array (value :: read).reverse, rest)
      | ',' :: rest =>
          match skipLines false rest with
          | ']' :: rest => some (.array (value :: read).reverse, rest)
          | rest => readItems fuel room (value :: read) rest
      | _ => none

/-- Reads pairs up to the closing brace. -/
def readMembers (fuel room : Nat) (read : Members) (text : List Char) :
    Option (Value × List Char) :=
  match fuel with
  | 0 => none
  | fuel + 1 => do
      let (key, text) ← readEquals text
      let (value, text) ← readValue fuel room text
      let read ← putDotted .inline false read key.name value key.above
      match skipBlanks text with
      | '}' :: rest => some (.table .inline read, rest)
      | ',' :: rest => readMembers fuel room read rest
      | _ => none

end

/-! ## Documents -/

/-- Where pairs go. -/
inductive Place where
  /-- Before the first header. -/
  | top
  | table (key : Key)
  /-- A new table in a row of tables. -/
  | row (key : Key)
deriving Repr, Inhabited, DecidableEq

/-- A document as far as it was read.  The table under the last header is kept
apart until the next header closes it. -/
structure Draft where
  root : Members := []
  place : Place := .top
  current : Members := []
deriving Repr, Inhabited

namespace Draft

/-- Puts the current table into its place. -/
def finish (draft : Draft) : Option Members :=
  match draft.place with
  | .top => some draft.current
  | .table key => do
      let change (members : Members) := do
        let members ← members.add key.name (.table .header draft.current)
        some ((), members)
      let (_, root) ← within change draft.root key.above
      some root
  | .row key => do
      let change (members : Members) :=
        match members.find key.name with
        | some (.tables rows) =>
            some ((), members.replace key.name (.tables (draft.current :: rows)))
        | _ => none
      let (_, root) ← within change draft.root key.above
      some root

/-- Goes on under a header.  A table that only tables below it have named so
far gets its header now; every other table has been written already. -/
def enter (draft : Draft) (place : Place) : Option Draft := do
  let root ← draft.finish
  match place with
  | .top => none
  | .table key => do
      let change (members : Members) :=
        match members.find key.name with
        | none => some ([], members)
        | some (.table .implied below) => some (below, members.erase key.name)
        | some _ => none
      let (current, root) ← within change root key.above
      some { root, place, current }
  | .row key => do
      let change (members : Members) :=
        match members.find key.name with
        | none => some ((), members ++ [(key.name, .tables [])])
        | some (.tables _) => some ((), members)
        | some _ => none
      let (_, root) ← within change root key.above
      some { root, place, current := [] }

/-- Adds a pair to the current table. -/
def put (draft : Draft) (key : Key) (value : Value) : Option Draft := do
  let current ← putDotted .header false draft.current key.name value key.above
  some { draft with current }

end Draft

/-- Reads a line and adds it to the draft; the value in it takes at most `fuel`
steps. -/
def readLine (fuel : Nat) (draft : Draft) (text : List Char) : Option (Draft × List Char) :=
  match skipBlanks text with
  | [] => some (draft, [])
  | '\n' :: rest => some (draft, rest)
  | '#' :: rest => do
      let rest ← endLine ('#' :: rest)
      some (draft, rest)
  | '[' :: '[' :: rest => do
      let (key, rest) ← readKey (deepest - 1) rest
      let rest ← skip ']' rest
      let rest ← skip ']' rest
      let rest ← endLine rest
      let draft ← draft.enter (.row key)
      some (draft, rest)
  | '[' :: rest => do
      let (key, rest) ← readKey (deepest - 1) rest
      let rest ← skip ']' rest
      let rest ← endLine rest
      let draft ← draft.enter (.table key)
      some (draft, rest)
  | text => do
      let (key, rest) ← readEquals text
      let (value, rest) ← readValue fuel (deepest - 1) rest
      let rest ← endLine rest
      let draft ← draft.put key value
      some (draft, rest)

/-- Reads the lines of a text; every one takes one of `fuel`, and values may
take more. -/
def readLines (valueFuel : Nat) : Nat → Draft → List Char → Option Draft
  | 0, _, _ => none
  | _ + 1, draft, [] => some draft
  | fuel + 1, draft, text => do
      let (draft, rest) ← readLine valueFuel draft text
      readLines valueFuel fuel draft rest

/-- The text without the mark that some editors put at its start. -/
def dropMark : List Char → List Char
  | c :: rest => if c.toNat == 0xFEFF then rest else c :: rest
  | [] => []

/-- The members of the table that a document is; none if the text is not TOML. -/
def read (text : String) : Option Members := do
  let chars ← clean (dropMark text.toList)
  let draft ← readLines (2 * chars.length + 2) (chars.length + 1) {} chars
  draft.finish

end Bytemark.Toml
