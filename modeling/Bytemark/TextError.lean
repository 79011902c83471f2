/-
Module: Bytemark.TextError
Purpose: Why an operation on a text file fails.
Trusted boundary: none
Main exports: Operation, TextError, TextError.operation, TextError.path?, TextError.message
-/
import Bytemark.Codec
import Bytemark.Stream.IoError

namespace Bytemark

/-- The operations that failures are reported under. -/
inductive Operation where
  | probeEncoding
  | openForRead
  | readLine
  | readAll
  | countLines
  | readPage
  | tail
  | openForWrite
  | write
  | writeLine
  | writeLines
  | page
deriving Repr, Inhabited, DecidableEq

/-- The name of an operation in messages. -/
def Operation.label : Operation → String
  | .probeEncoding => "probe encoding"
  | .openForRead => "open for read"
  | .readLine => "read line"
  | .readAll => "read all"
  | .countLines => "count lines"
  | .readPage => "read page"
  | .tail => "tail"
  | .openForWrite => "open for write"
  | .write => "write"
  | .writeLine => "write line"
  | .writeLines => "write lines"
  | .page => "page"

/-- Failures of sessions and scans.  All but those of a page request name the
file. -/
inductive TextError where
  /-- The operation needs a cursor that is not open. -/
  | notOpen (operation : Operation) (path : String)
  /-- A stream could not be opened, probed, read or written. -/
  | io (operation : Operation) (path : String) (cause : IoError)
  /-- The text has a character that the encoding lacks. -/
  | unsupportedEncoding (operation : Operation) (path : String) (refusal : Unencodable)
  /-- A page was asked for before the first line. -/
  | negativeOffset (offset : Int)
  /-- A page was asked for with fewer lines than none. -/
  | negativeSize (size : Int)
deriving Repr, Inhabited, DecidableEq

namespace TextError

/-- The operation that failed. -/
def operation : TextError → Operation
  | notOpen operation _ => operation
  | io operation _ _ => operation
  | unsupportedEncoding operation _ _ => operation
  | negativeOffset _ => .page
  | negativeSize _ => .page

/-- The file that the operation was about. -/
def path? : TextError → Option String
  | notOpen _ path => some path
  | io _ path _ => some path
  | unsupportedEncoding _ path _ => some path
  | negativeOffset _ => none
  | negativeSize _ => none

/-- The wording of a failure. -/
def message : TextError → String
  | notOpen operation path => s!"file not opened - can't {operation.label} '{path}'"
  | io operation path cause =>
      s!"I/O error during {operation.label} on '{path}': {cause.message}"
  | unsupportedEncoding operation path refusal =>
      s!"unsupported encoding during {operation.label} on '{path}': {refusal.message}"
  | negativeOffset offset =>
      s!"invalid argument for page: line offset must not be negative (got {offset})"
  | negativeSize size =>
      s!"invalid argument for page: page size must not be negative (got {size})"

end TextError

end Bytemark
