/-
Module: Bytemark.CommandLine.Switch
Purpose: The commands, the switches that each of them takes, and their values.
Trusted boundary: none
Main exports: CommandName, Switch, Choice, Switch.choice?, Switch.read
-/
import Bytemark.Encoding.Label
import Bytemark.Text.Number

namespace Bytemark

/-- What the program can be told to do. -/
inductive CommandName where
  | detect
  | cat
  | lines
  | count
  | page
  | tail
  | write
deriving Repr, Inhabited, DecidableEq

/-- Arguments that begin with dashes. -/
inductive Switch where
  | config
  | defaultEncoding
  | number
  | grep
  | offset
  | size
  | json
  | last
  | append
  | encoding
deriving Repr, Inhabited, DecidableEq

/-- A switch with its value, if it has one. -/
inductive Choice where
  | config (path : String)
  | defaultEncoding (encoding : Encoding)
  | number
  | grep (sought : String)
  | offset (lines : Int)
  | size (lines : Int)
  | json
  | last (lines : Nat)
  | append
  | encoding (encoding : Encoding)
deriving Repr, Inhabited, DecidableEq

namespace CommandName

/-- The word for a command. -/
def label : CommandName → String
  | detect => "detect"
  | cat => "cat"
  | lines => "lines"
  | count => "count"
  | page => "page"
  | tail => "tail"
  | write => "write"

/-- Every command. -/
def all : List CommandName := [.detect, .cat, .lines, .count, .page, .tail, .write]

/-- The command for a word. -/
def ofLabel (word : String) : Option CommandName :=
  all.find? fun command => command.label == word

end CommandName

namespace Switch

/-- The name behind two dashes. -/
def long : Switch → String
  | config => "config"
  | defaultEncoding => "default-encoding"
  | number => "number"
  | grep => "grep"
  | offset => "offset"
  | size => "size"
  | json => "json"
  | last => "lines"
  | append => "append"
  | encoding => "encoding"

/-- The letter behind one dash. -/
def short? : Switch → Option Char
  | number => some 'n'
  | last => some 'n'
  | _ => none

/-- Whether the value may be a number that begins with a dash. -/
def takesNegative : Switch → Bool
  | offset => true
  | size => true
  | _ => false

/-- The choice that a switch without a value is; none if it takes one. -/
def choice? : Switch → Option Choice
  | number => some .number
  | json => some .json
  | append => some .append
  | _ => none

/-- A whole number of 64 bits with a sign. -/
def readInteger (value : String) : Option Int :=
  match Text.integer value.toList with
  | some parsed =>
      if Int64.minValue.toInt ≤ parsed && parsed ≤ Int64.maxValue.toInt then some parsed
      else none
  | none => none

/-- A whole number of 64 bits without a sign. -/
def readNatural (value : String) : Option Nat :=
  match Text.natural value.toList with
  | some parsed => if parsed < UInt64.size then some parsed else none
  | none => none

/-- An encoding by its label. -/
def readEncoding (value : String) : Option Encoding :=
  (Encoding.ofLabel value).toOption

/-- A path; the empty text is none. -/
def readPath (value : String) : Option String :=
  if value.isEmpty then none else some value

/-- The choice that a switch is with a value. -/
def read (value : String) : Switch → Option Choice
  | config => (readPath value).map .config
  | defaultEncoding => (readEncoding value).map .defaultEncoding
  | grep => some (.grep value)
  | offset => (readInteger value).map .offset
  | size => (readInteger value).map .size
  | last => (readNatural value).map .last
  | encoding => (readEncoding value).map .encoding
  | number => none
  | json => none
  | append => none

/-- The switches that every command takes, also in front of its name. -/
def shared : List Switch := [.config, .defaultEncoding]

/-- The switches that a command takes. -/
def ofCommand : CommandName → List Switch
  | .detect => shared
  | .cat => shared
  | .lines => shared ++ [.number]
  | .count => shared ++ [.grep]
  | .page => shared ++ [.offset, .size, .grep, .json]
  | .tail => shared ++ [.last, .grep]
  | .write => shared ++ [.append, .encoding]

end Switch

/-- The switch of a choice. -/
def Choice.switch : Choice → Switch
  | config _ => .config
  | defaultEncoding _ => .defaultEncoding
  | number => .number
  | grep _ => .grep
  | offset _ => .offset
  | size _ => .size
  | json => .json
  | last _ => .last
  | append => .append
  | encoding _ => .encoding

end Bytemark
