/-
Module: Bytemark.Scan.Scanner
Purpose: Counting, paging and tailing the lines of a file.
Trusted boundary: none
Main exports: Scanner, Scanner.scan, Scanner.count, Scanner.page, Scanner.tail
-/
import Bytemark.Files.ReadCursor
import Bytemark.Scan.Page
import Bytemark.TextSettings

namespace Bytemark

/-!
A scan opens the file on a cursor of its own and goes through it from the
first line, so it neither sees nor disturbs any cursor that is open elsewhere.
-/

/-- A file to be scanned, and how its encoding is resolved. -/
structure Scanner where
  path : String
  resolver : Resolver
deriving Repr, Inhabited, DecidableEq

namespace Scanner

/-- A scanner with the settings of text files. -/
def new (path : String) (settings : TextSettings) (logger : Logger) : Scanner :=
  { path, resolver := settings.resolver logger }

/-- Shows the matching lines to a visitor until it asks to stop. -/
def scan {σ : Type} (scanner : Scanner) (files : FileSystem) (filter : Filter)
    (operation : Operation) (see : σ → String → Visit σ) (state : σ) :
    Except TextError σ × List Log.Entry :=
  match ReadCursor.openFile files scanner.path scanner.resolver with
  | (.error cause, log) => (.error (.io operation scanner.path cause), log)
  | (.ok cursor, log) =>
      let seeMatching (state : σ) (line : String) : Visit σ :=
        if filter.accepts line then see state line else .more state
      match cursor.visit files seeMatching state with
      | (_, .error cause, _) => (.error (.io operation scanner.path cause), log)
      | (final, .ok (), _) => (.ok final, log)

/-- Reports a finished scan. -/
def report (scanner : Scanner) (message : String) : List Log.Entry :=
  if scanner.resolver.logger.isEnabled .debug then
    scanner.resolver.logger.record .debug message
  else []

/-- Number of lines that match. -/
def count (scanner : Scanner) (files : FileSystem) (filter : Filter) :
    Except TextError Nat × List Log.Entry :=
  let filter := filter.effective
  match scanner.scan files filter .countLines (fun count _ => .more (count + 1)) 0 with
  | (.error failure, log) => (.error failure, log)
  | (.ok count, log) =>
      (.ok count,
        log ++ scanner.report
          s!"counted {count} lines in '{scanner.path}' (grep: {filter.debugText})")

/-- A window of the lines that match. -/
def page (scanner : Scanner) (files : FileSystem) (request : PageRequest) (filter : Filter) :
    Except TextError Page × List Log.Entry :=
  let filter := filter.effective
  match scanner.scan files filter .readPage (Paging.see request) .start with
  | (.error failure, log) => (.error failure, log)
  | (.ok paging, log) =>
      let page := paging.toPage request filter
      (.ok page,
        log ++ scanner.report
          (s!"page offset={request.offset} size={request.size} " ++
            s!"returned={page.returned} has_more={page.hasMore} of '{scanner.path}'"))

/-- The last lines that match. -/
def tail (scanner : Scanner) (files : FileSystem) (requested : Nat) (filter : Filter) :
    Except TextError Tail × List Log.Entry :=
  let filter := filter.effective
  let see (state : Ring × Nat) (line : String) : Visit (Ring × Nat) :=
    .more (state.1.push line, state.2 + 1)
  match scanner.scan files filter .tail see (.new requested, 0) with
  | (.error failure, log) => (.error failure, log)
  | (.ok (ring, matched), log) =>
      (.ok { requested, lines := ring.lines, matchedTotal := matched },
        log ++ scanner.report
          (s!"tail {requested} of '{scanner.path}' kept {ring.size} " ++
            s!"of {matched} matching lines"))

end Scanner

end Bytemark
