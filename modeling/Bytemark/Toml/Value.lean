/-
Module: Bytemark.Toml.Value
Purpose: TOML values, and tables that grow while a document is read.
Trusted boundary: none
Main exports: Toml.Origin, Toml.Value, Toml.Members, Toml.putDotted, Toml.within
-/

namespace Bytemark.Toml

/-!
A table of a document can be written in several places: under its header,
through the headers of tables below it, and by dotted keys.  What may still be
added to a table depends on where it came from, so every table remembers that.
-/

/-- Where a table of a document came from. -/
inductive Origin where
  /-- It has a header of its own. -/
  | header
  /-- Only tables below it have headers so far. -/
  | implied
  /-- Dotted keys made it. -/
  | dotted
  /-- It was written between braces and is complete. -/
  | inline
deriving Repr, Inhabited, DecidableEq

/-- A value.  Numbers with a point and dates keep their spelling. -/
inductive Value where
  | string (text : String)
  | integer (value : Int)
  | float (literal : String)
  | boolean (value : Bool)
  | date (literal : String)
  | array (items : List Value)
  | table (origin : Origin) (members : List (String × Value))
  /-- A row of tables that share a header in double brackets, last one first. -/
  | tables (rows : List (List (String × Value)))
deriving Repr, Inhabited

/-- The members of a table, in the order in which they were written. -/
abbrev Members := List (String × Value)

namespace Members

/-- The value of a key. -/
def find (members : Members) (key : String) : Option Value :=
  (members.find? fun member => member.1 == key).map (·.2)

/-- Adds a member behind the others; a key is given a value only once. -/
def add (members : Members) (key : String) (value : Value) : Option Members :=
  match members.find key with
  | some _ => none
  | none => some (members ++ [(key, value)])

/-- Replaces the value of a key, which keeps its place. -/
def replace (members : Members) (key : String) (value : Value) : Members :=
  members.map fun member => if member.1 == key then (key, value) else member

/-- Takes a member out. -/
def erase (members : Members) (key : String) : Members :=
  members.filter fun member => member.1 != key

end Members

/-- Puts a value under a key, behind the dotted names before it.  Names that
lead nowhere yet make tables; names of finished tables are refused, and so is a
last table that dotted keys did not make. -/
def putDotted (origin : Origin) (deep : Bool) (members : Members) (key : String)
    (value : Value) : List String → Option Members
  | [] => if (origin == .dotted) == deep then members.add key value else none
  | name :: rest =>
      match members.find name with
      | none => do
          let made ← putDotted .dotted true [] key value rest
          members.add name (.table .dotted made)
      | some (.table inner below) =>
          if inner == .header || inner == .inline then none
          else do
            let changed ← putDotted inner true below key value rest
            some (members.replace name (.table inner changed))
      | some (.tables (last :: others)) => do
          let changed ← putDotted .header true last key value rest
          some (members.replace name (.tables (changed :: others)))
      | some _ => none

/-- Changes the table that the names of a header lead to.  Missing tables are
made; of a row of tables the last one is meant. -/
def within {α : Type} (change : Members → Option (α × Members)) (members : Members) :
    List String → Option (α × Members)
  | [] => change members
  | name :: rest =>
      match members.find name with
      | none => do
          let (a, made) ← within change [] rest
          let grown ← members.add name (.table .implied made)
          some (a, grown)
      | some (.table origin below) =>
          if origin == .inline then none
          else do
            let (a, changed) ← within change below rest
            some (a, members.replace name (.table origin changed))
      | some (.tables (last :: others)) => do
          let (a, changed) ← within change last rest
          some (a, members.replace name (.tables (changed :: others)))
      | some _ => none

end Bytemark.Toml
