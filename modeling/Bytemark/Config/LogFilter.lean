/-
Module: Bytemark.Config.LogFilter
Purpose: How much of the activity of the program is shown.
Trusted boundary: none
Main exports: LogFilter, LogFilter.name, LogFilter.all, LogFilter.ofLevel
-/
import Bytemark.Text.Blank
import Bytemark.Text.Number

namespace Bytemark

/-- What is shown: nothing, or the messages down to some level. -/
inductive LogFilter where
  | off
  | error
  | warn
  | info
  | debug
  | trace
deriving Repr, Inhabited, DecidableEq

namespace LogFilter

/-- The name of a filter. -/
def name : LogFilter → String
  | off => "off"
  | error => "error"
  | warn => "warn"
  | info => "info"
  | debug => "debug"
  | trace => "trace"

/-- The filters, from the quietest on.  A filter can also be named by its place
in this row. -/
def all : List LogFilter := [.off, .error, .warn, .info, .debug, .trace]

/-- The filter that a level without blanks around it names.  An empty level
asks for errors. -/
def ofTrimmed (level : List Char) : Option LogFilter :=
  match (Text.natural level).bind (all[·]?) with
  | some filter => some filter
  | none =>
      if level.isEmpty then some .error
      else all.find? fun filter => level.map Char.toLower == filter.name.toList

/-- The filter that a level names, in any mixture of upper and lower case. -/
def ofLevel (level : String) : Option LogFilter := ofTrimmed (Text.trim level.toList)

end LogFilter

end Bytemark
