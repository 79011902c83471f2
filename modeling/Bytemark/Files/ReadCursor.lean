/-
Module: Bytemark.Files.ReadCursor
Purpose: Reading the decoded text of an open file.
Trusted boundary: none
Main exports: ReadCursor, ReadCursor.openFile, ReadCursor.readLine, ReadCursor.readRemaining,
  ReadCursor.readLine_eq, ReadCursor.visit, Resolver.resolveFile, FileSystem.loadWith
-/
import Bytemark.Files.FileSystem
import Bytemark.Resolver
import Bytemark.Stream.LineReader

namespace Bytemark

/-!
Between two calls a cursor holds a file handle and what it has read ahead.  A
call first looks at the file as it is then, so what others have written, cut
off or removed since shows exactly as far as it was not read ahead.
-/

/-- The text of a file from where reading stands. -/
structure ReadCursor where
  handle : ReadHandle
  resolution : Resolution
  lines : LineReader TextStream
deriving Repr, Inhabited, DecidableEq

/-- The stream with another script under it. -/
def TextStream.withSource (text : TextStream) (source : Source) : TextStream :=
  { text with inner := { text.inner with source } }

namespace ReadCursor

/-- The reader over the file as it is now. -/
def look (cursor : ReadCursor) (files : FileSystem) : LineReader TextStream :=
  { cursor.lines with inner := cursor.lines.inner.withSource (files.view cursor.handle) }

/-- The cursor after its reader has gone on. -/
def settle (cursor : ReadCursor) (files : FileSystem) (lines : LineReader TextStream) :
    ReadCursor :=
  { cursor with
    handle := files.advance cursor.handle lines.inner.inner.source
    lines := { lines with inner := lines.inner.withSource ⟨[]⟩ } }

/-- Opens a file, resolves its encoding and stands on the first octet of
content. -/
def openFile (files : FileSystem) (path : String) (resolver : Resolver) :
    Except IoError ReadCursor × List Log.Entry :=
  match files.openRead path with
  | .error cause => (.error cause, [])
  | .ok handle =>
      let resolved := resolver.resolve (Pushback.ofSource (files.view handle))
      match resolved.result with
      | .error cause => (.error cause, resolved.log)
      | .ok resolution =>
          let lines := LineReader.new (TextStream.new resolved.stream resolution.encoding)
          let cursor : ReadCursor := { handle, resolution, lines }
          (.ok (cursor.settle files lines), resolved.log)

/-- The next line, or none at the end.  The file is looked at only if the line
was not read ahead in full. -/
def readLine (cursor : ReadCursor) (files : FileSystem) :
    Except IoError (Option String) × ReadCursor :=
  if cursor.lines.holdsLine then
    let (line, lines) := cursor.lines.readLine
    (line, { cursor with lines })
  else
    let (line, lines) := (cursor.look files).readLine
    (line, cursor.settle files lines)

/-- Looking at the file for a line that was read ahead would change nothing. -/
theorem readLine_eq (cursor : ReadCursor) (files : FileSystem)
    (settled : cursor.lines.inner.inner.source = ⟨[]⟩) :
    cursor.readLine files =
      ((cursor.look files).readLine.1, cursor.settle files (cursor.look files).readLine.2) := by
  unfold readLine
  split
  · rename_i held
    have looked := LineReader.readLine_of_holdsLine held
      { cursor.lines.inner.inner with source := files.view cursor.handle }
    change (cursor.look files).readLine = _ at looked
    have same := LineReader.inner_of_holdsLine held
    have still : files.advance cursor.handle (files.view cursor.handle) = cursor.handle := by
      simp [FileSystem.advance, FileSystem.size_view]
    rw [looked]
    simp only [settle, TextStream.withSource, still, ← settled, ← same]
  · rfl

/-- The text that is left, terminators included.  The reading goes past the
line reader, so the LF of a CR LF whose line was just read is still there. -/
def readRemaining (cursor : ReadCursor) (files : FileSystem) :
    Except IoError String × ReadCursor :=
  let lines := cursor.look files
  let (drained, text) := lines.inner.drain
  let after := cursor.settle files { lines with inner := text }
  match drained.failure with
  | some cause => (.error cause, after)
  | none =>
      match Codec.Utf8.decode drained.octets with
      | .ok chars => (.ok (String.ofList chars), after)
      | .error _ => (.error .notText, after)

/-- Shows every further line to a visitor until it asks to stop. -/
def visit {σ : Type} (cursor : ReadCursor) (files : FileSystem)
    (see : σ → String → Visit σ) (state : σ) : σ × Except IoError Unit × ReadCursor :=
  let (final, outcome, lines) := (cursor.look files).visit see state
  (final, outcome, cursor.settle files lines)

end ReadCursor

/-- Resolves the encoding of a file without keeping it open.  A file that
cannot be opened is a failed probe. -/
def Resolver.resolveFile (resolver : Resolver) (files : FileSystem) (path : String) :
    Except IoError Resolution × List Log.Entry :=
  match files.openRead path with
  | .error cause => resolver.afterFailure cause
  | .ok handle =>
      let resolved := resolver.resolve (Pushback.ofSource (files.view handle))
      (resolved.result, resolved.log)

/-- The text of a whole file in a given encoding; a signature is text, too. -/
def FileSystem.loadWith (files : FileSystem) (path : String) (encoding : Encoding) :
    Except IoError String := do
  let octets ← files.readFile path
  .ok (encoding.decode octets)

end Bytemark
