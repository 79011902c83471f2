/-
Module: Bytemark.CommandLine
Purpose: What a run of the program prints, and what it does to the files.
Trusted boundary: none
Main exports: Failure, Report, Command.perform, Invocation.run, CommandLine.run
-/
import Bytemark.CommandLine.Arguments
import Bytemark.Config.Files
import Bytemark.Session

namespace Bytemark

/-!
A run reads its arguments, loads the configuration and carries one command out
on one file.  What was printed before a failure stays printed, and a session that
was opened is closed whatever became of it.

The log of a report holds the messages of the session and its scans.  Left out
are the program's own remarks in the trace (that the configuration is ready, that
more lines follow a page, that the lines were written) and the filter that the
environment can set over the configured one: files, output, complaint and exit
code depend on neither.
-/

/-- Why a command was not carried out to its end. -/
inductive Failure where
  /-- There is no valid configuration, in the given file or in the usual places. -/
  | configuration (path : Option String) (cause : ConfigError)
  | openForWriting (path : String) (cause : TextError)
  | text (cause : TextError)
deriving Repr, Inhabited, DecidableEq

namespace Failure

/-- The wording of a failure, without what caused it. -/
def message : Failure → String
  | configuration (some path) _ => s!"load configuration '{path}'"
  | configuration none _ => "load configuration"
  | openForWriting path _ => s!"open '{path}' for writing"
  | text cause => cause.message

/-- The wording of what caused a failure. -/
def cause? : Failure → Option String
  | configuration _ cause => some cause.message
  | openForWriting _ cause => some cause.message
  | text _ => none

/-- The text that reports a failure; its first line is the message. -/
def report (failure : Failure) : String :=
  "Error: " ++ failure.message ++ "\n" ++
    match failure.cause? with
    | some cause => "\nCaused by:\n    " ++ cause ++ "\n"
    | none => ""

end Failure

/-- The end of a run. -/
structure Report where
  code : Nat
  output : String
  /-- What the error stream gets beside the trace. -/
  complaint : String
  files : FileSystem
  log : List Log.Entry
deriving Repr, Inhabited, DecidableEq

/-! ## Printing -/

/-- A line of output. -/
def printedLine (line : String) : String := line ++ "\n"

/-- A number, at the right end of a column. -/
def column (width number : Nat) : String :=
  let digits := Nat.toDigits 10 number
  String.ofList (List.replicate (width - digits.length) ' ' ++ digits)

/-- Lines with their numbers, as far as they were printed. -/
structure Numbered where
  printed : List String := []
  last : Nat := 0
deriving Repr, Inhabited, DecidableEq

namespace Numbered

/-- Prints one more line. -/
def see (number : Bool) (shown : Numbered) (line : String) : Visit Numbered :=
  let text := if number then column 6 (shown.last + 1) ++ "  " ++ line else line
  .more { printed := printedLine text :: shown.printed, last := shown.last + 1 }

/-- All that was printed. -/
def output (shown : Numbered) : String := String.join shown.printed.reverse

end Numbered

/-! ## Commands -/

/-- Where the encoding of a resolution comes from. -/
def Resolution.origin (resolution : Resolution) : String :=
  if resolution.hasSignature then "byte-order mark" else "default, no byte-order mark"

/-- A command on an open session: the output, and the failure that ended it. -/
def Command.act : Command → Action (String × Option Failure)
  | .detect file => do
      let resolution ← Session.probe
      let line := s!"{file}: {resolution.encoding.label} ({resolution.origin})"
      return (printedLine line, none)
  | .cat _ => do
      return (← Session.readAll, none)
  | .lines file number => do
      Session.openRead
      let (shown, outcome) ← Session.visit (Numbered.see number) {}
      Session.close
      match outcome with
      | .ok () => return (shown.output, none)
      | .error cause => return (shown.output, some (.text (.io .readLine file cause)))
  | .count _ grep => do
      return (printedLine (toString (← Session.count grep)), none)
  | .page _ offset size grep json => do
      let request ← Action.ofExcept (PageRequest.ofInts offset size)
      let page ← Session.page request grep
      if json then return (printedLine page.toJson.pretty, none)
      else return (String.join (page.lines.map printedLine), none)
  | .tail _ last grep => do
      let tail ← Session.tail last grep
      return (String.join (tail.lines.map printedLine), none)
  | .write file append encoding text => do
      match ← Action.attempt (Session.openWrite append encoding) with
      | .error cause => return ("", some (.openForWriting file cause))
      | .ok () =>
          Session.thenClose (Session.writeLines text)
          return ("", none)

/-- The report of a run that ended like this. -/
def Report.ofFailure (output : String) (failure : Option Failure) (files : FileSystem)
    (log : List Log.Entry) : Report :=
  match failure with
  | none => { code := 0, output, complaint := "", files, log }
  | some failure => { code := 1, output, complaint := failure.report, files, log }

/-- The logger that lets through what a filter allows. -/
def LogFilter.logger : LogFilter → Logger
  | .off => .silent
  | .error => .tracing .severe
  | .warn => .tracing .warn
  | .info => .tracing .info
  | .debug => .tracing .debug
  | .trace => .tracing .debug

/-- Carries a command out under a configuration. -/
def Command.perform (command : Command) (config : Config) (files : FileSystem) : Report :=
  let logger := match LogFilter.ofLevel config.logLevel with
    | some filter => filter.logger
    | none => .silent
  let outcome := command.act (Session.new command.file config.text logger) files
  match outcome.result with
  | .ok (output, failure) => Report.ofFailure output failure outcome.files outcome.log
  | .error cause => Report.ofFailure "" (some (.text cause)) outcome.files outcome.log

namespace Invocation

/-- The configuration of a run. -/
def loadConfig (invocation : Invocation) (files : FileSystem) (home : Option String) :
    Except Failure Config :=
  let loaded := match invocation.config with
    | some path => Config.ofFile files path
    | none => Config.load files home
  match loaded with
  | .error cause => .error (.configuration invocation.config cause)
  | .ok config =>
      let defaultEncoding := invocation.defaultEncoding.getD config.text.defaultEncoding
      .ok { config with text := { config.text with defaultEncoding } }

/-- Runs the program on arguments that were understood. -/
def run (invocation : Invocation) (files : FileSystem) (home : Option String) : Report :=
  match invocation.loadConfig files home with
  | .error failure => Report.ofFailure "" (some failure) files []
  | .ok config => invocation.command.perform config files

end Invocation

namespace CommandLine

/-- The name of the program and its version. -/
def versionText : String := "bomtext 0.1.0\n"

/-- What the program can do. -/
def helpText : String :=
  "BOM-aware text file reader, pager and writer\n\n" ++
    "Usage: bomtext [--config PATH] [--default-encoding LABEL] COMMAND\n\n" ++
    "Commands:\n" ++
    "  detect FILE                    print the encoding of a file\n" ++
    "  cat FILE                       print the decoded content of a file\n" ++
    "  lines [-n] FILE                print a file line by line\n" ++
    "  count [--grep TEXT] FILE       count lines\n" ++
    "  page [--offset N] [--size N] [--grep TEXT] [--json] FILE\n" ++
    "                                 print a window of lines\n" ++
    "  tail [-n N] [--grep TEXT] FILE print the last lines of a file\n" ++
    "  write [--append] [--encoding LABEL] FILE TEXT...\n" ++
    "                                 write each TEXT as one line\n" ++
    "  help [COMMAND]                 print this text\n"

/-- Runs the program. -/
def run (files : FileSystem) (home : Option String) (arguments : List String) : Report :=
  match Invocation.ofArguments arguments with
  | .ok invocation => invocation.run files home
  | .error .help => { code := 0, output := helpText, complaint := "", files, log := [] }
  | .error .version => { code := 0, output := versionText, complaint := "", files, log := [] }
  | .error (.usage reason) =>
      { code := 2, output := "", complaint := s!"error: {reason.message}\n", files, log := [] }

end CommandLine

end Bytemark
