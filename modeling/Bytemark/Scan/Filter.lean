/-
Module: Bytemark.Scan.Filter
Purpose: Keeping the lines that contain a text.
Trusted boundary: none
Main exports: Filter, Filter.effective, Filter.accepts, Filter.debugText
-/
import Bytemark.Text.Escape

namespace Bytemark

/-- A text that lines have to contain, or nothing to ask of them. -/
abbrev Filter := Option String

namespace Filter

/-- Whether the text occurs somewhere in the line. -/
def occursIn (sought : List Char) : List Char → Bool
  | [] => sought.isEmpty
  | c :: rest => sought.isPrefixOf (c :: rest) || occursIn sought rest

/-- A filter without characters asks for nothing. -/
def effective : Filter → Filter
  | some sought => if sought.isEmpty then none else some sought
  | none => none

/-- Whether a line is kept. -/
def accepts (filter : Filter) (line : String) : Bool :=
  match filter.effective with
  | some sought => occursIn sought.toList line.toList
  | none => true

/-- The filter as messages show it. -/
def debugText : Filter → String
  | some sought => s!"Some({Text.quotedText sought})"
  | none => "None"

end Filter

end Bytemark
