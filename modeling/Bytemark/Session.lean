/-
Module: Bytemark.Session
Purpose: The operations of a text file session.
Trusted boundary: none
Main exports: Session.close, Session.openRead, Session.readLine, Session.readAll,
  Session.readLines, Session.readAllWith, Session.probe, Session.count, Session.page,
  Session.tail, Session.openWrite, Session.openAppend, Session.write, Session.writeLine,
  Session.writeLines, Session.writeAll, Session.writeAllLines
-/
import Bytemark.Session.Action

namespace Bytemark

/-!
A session holds a reader or a writer, never both.  Opening either side closes
whatever was open before, so a failed opening leaves the session closed; the
operations that open, work and close leave it closed in every case.
-/

namespace Session

/-- Whether anything exists at the path. -/
def exists? (session : Session) (files : FileSystem) : Bool := files.exists? session.path

/-- Whether a reader is open. -/
def isReading (session : Session) : Bool :=
  match session.cursor with
  | .reading _ => true
  | _ => false

/-- Whether a writer is open. -/
def isWriting (session : Session) : Bool :=
  match session.cursor with
  | .writing _ => true
  | _ => false

/-- The resolver that reads and writes share. -/
def resolver (session : Session) : Resolver := session.settings.resolver session.logger

/-- The scanner over the file of the session. -/
def scanner (session : Session) : Scanner :=
  Scanner.new session.path session.settings session.logger

/-- The session without its cursor. -/
def released (session : Session) : Session :=
  { session with cursor := .closed, encoding := none, hasSignature := false }

/-- Releases the cursor. -/
def close : Action Unit := do
  let session ← Action.session
  match session.cursor with
  | .writing cursor =>
      Action.tell .debug s!"closing '{session.path}' after {cursor.octetsWritten} bytes"
  | _ => Action.answer ()
  Action.modify released

/-- Changes the settings; open cursors are not affected. -/
def configure (change : TextSettings → TextSettings) : Action Unit :=
  Action.modify fun session => { session with settings := change session.settings }

/-- Resolves the encoding of the file without opening a cursor. -/
def probe : Action Resolution := do
  let session ← Action.session
  let (result, log) := session.resolver.resolveFile (← Action.files) session.path
  Action.send log
  Action.io .probeEncoding result

/-- The message about an opened file. -/
def openedMessage (path purpose : String) (encoding : Encoding) (hasSignature : Bool) :
    String :=
  s!"opened '{path}' for {purpose} ({encoding.label}, bom: {hasSignature})"

/-- Opens a reader on the first octet of content. -/
def openRead : Action Unit := do
  close
  let session ← Action.session
  let (result, log) := ReadCursor.openFile (← Action.files) session.path session.resolver
  Action.send log
  let cursor ← Action.io .openForRead result
  let encoding := cursor.resolution.encoding
  let hasSignature := cursor.resolution.hasSignature
  Action.modify fun session =>
    { session with cursor := .reading cursor, encoding := some encoding, hasSignature }
  Action.tell .info (openedMessage session.path "read" encoding hasSignature)

/-- The next line, or none at the end. -/
def readLine : Action (Option String) := do
  match (← Action.session).cursor with
  | .reading cursor =>
      let (line, after) := cursor.readLine (← Action.files)
      Action.modify fun session => { session with cursor := .reading after }
      Action.io .readLine line
  | _ => Action.notOpen .readLine

/-- The text that the open reader has left. -/
def readRemaining : Action String := do
  match (← Action.session).cursor with
  | .reading cursor =>
      let (text, after) := cursor.readRemaining (← Action.files)
      Action.modify fun session => { session with cursor := .reading after }
      Action.io .readAll text
  | _ => Action.notOpen .readAll

/-- Shows the lines that the open reader has left to a visitor.  A failure of
the stream is part of the answer, beside what the visitor has seen before it. -/
def visit {σ : Type} (see : σ → String → Visit σ) (state : σ) :
    Action (σ × Except IoError Unit) := do
  match (← Action.session).cursor with
  | .reading cursor =>
      let (final, outcome, after) := cursor.visit (← Action.files) see state
      Action.modify fun session => { session with cursor := .reading after }
      Action.answer (final, outcome)
  | _ => Action.notOpen .readLine

/-- The lines that the open reader has left. -/
def readRemainingLines : Action (List String) := do
  let (lines, outcome) ← visit (fun seen line => .more (line :: seen)) []
  Action.io .readLine outcome
  Action.answer lines.reverse

/-- Runs an operation and closes the session whatever became of it. -/
def thenClose {α : Type} (action : Action α) : Action α := do
  let result ← action.attempt
  close
  Action.ofExcept result

/-- The whole text; opens, reads and closes. -/
def readAll : Action String := do
  openRead
  thenClose readRemaining

/-- Every line; opens, reads and closes. -/
def readLines : Action (List String) := do
  openRead
  thenClose readRemainingLines

/-- The whole text in a given encoding, without looking for a signature. -/
def readAllWith (encoding : Encoding) : Action String := do
  close
  let session ← Action.session
  Action.io .readAll ((← Action.files).loadWith session.path encoding)

/-- Runs a scan, which has a cursor of its own. -/
def scanning {α : Type}
    (scan : Scanner → FileSystem → Except TextError α × List Log.Entry) : Action α := do
  let (result, log) := scan (← Action.session).scanner (← Action.files)
  Action.send log
  Action.ofExcept result

/-- Number of lines that match. -/
def count (filter : Filter) : Action Nat :=
  scanning fun scanner files => scanner.count files filter

/-- A window of the lines that match. -/
def page (request : PageRequest) (filter : Filter) : Action Page :=
  scanning fun scanner files => scanner.page files request filter

/-- A window of the lines that match, as a document. -/
def pageJson (request : PageRequest) (filter : Filter) : Action Json := do
  let page ← page request filter
  Action.answer page.toJson

/-- The last lines that match. -/
def tail (requested : Nat) (filter : Filter) : Action Tail :=
  scanning fun scanner files => scanner.tail files requested filter

/-- Opens a writer.  The encoding is the one asked for, else that of the
existing file where its signature is to be kept or appended to, else the
default. -/
def openWrite (append : Bool) (encoding : Option Encoding) : Action Unit := do
  close
  let session ← Action.session
  let present := session.exists? (← Action.files)
  let reuses := append || (encoding.isNone && session.settings.keepExistingSignature)
  let existing ←
    if present && reuses then do
      let (result, log) := session.resolver.resolveFile (← Action.files) session.path
      Action.send log
      let resolution ← Action.io .openForWrite result
      Action.answer (some resolution)
    else Action.answer none
  let chosen :=
    (encoding.or (existing.map Resolution.encoding)).getD session.settings.defaultEncoding
  let appending := append && present
  let (result, after) :=
    WriteCursor.openFile (← Action.files) session.path chosen appending
  Action.setFiles after
  let cursor ← Action.io .openForWrite result
  let hasSignature :=
    if appending then existing.any Resolution.hasSignature else cursor.wroteSignature
  Action.modify fun session =>
    { session with cursor := .writing cursor, encoding := some chosen, hasSignature }
  Action.tell .info
    (openedMessage session.path (if appending then "append" else "write") chosen hasSignature)

/-- Opens a writer that keeps what the file holds. -/
def openAppend (encoding : Option Encoding) : Action Unit := openWrite true encoding

/-- Encodes a text and writes it.  A text that cannot be encoded is not
written in part. -/
def writeUnder (operation : Operation) (text : String) : Action Unit := do
  let session ← Action.session
  match session.cursor with
  | .writing cursor =>
      match cursor.encoding.encode text with
      | .error refusal =>
          Action.fail (.unsupportedEncoding operation session.path refusal)
      | .ok octets =>
          let (result, written, after) := cursor.write (← Action.files) octets
          Action.modify fun session => { session with cursor := .writing written }
          Action.setFiles after
          Action.io operation result
  | _ => Action.notOpen operation

/-- Writes a text. -/
def write (text : String) : Action Unit := writeUnder .write text

/-- Writes a text and a line terminator. -/
def writeLine (text : String) : Action Unit :=
  writeUnder .writeLine (text ++ Terminator.native.text)

/-- Writes texts as lines, up to the first that is refused. -/
def writeEach : List String → Action Unit
  | [] => Action.answer ()
  | line :: rest => do
      writeLine line
      writeEach rest

/-- Writes texts as lines. -/
def writeLines (lines : List String) : Action Unit := do
  if (← Action.session).isWriting then writeEach lines
  else Action.notOpen .writeLines

/-- Makes a text the whole content of the file. -/
def writeAll (text : String) : Action Unit := do
  openWrite false none
  thenClose (write text)

/-- Makes lines the whole content of the file. -/
def writeAllLines (lines : List String) : Action Unit := do
  openWrite false none
  thenClose (writeLines lines)

end Session

end Bytemark
