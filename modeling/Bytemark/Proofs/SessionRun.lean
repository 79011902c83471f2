/-
Module: Bytemark.Proofs.SessionRun
Purpose: What the operations of a session come to, messages aside.
Trusted boundary: none
Main exports: Action.run, Session.run_openRead_of_file, Session.run_readAll_of_file,
  Session.run_readLines_of_file
-/
import Bytemark.Session
import Bytemark.Proofs.FileReading

namespace Bytemark

namespace Action

variable {α β : Type}

/-- The result of an operation, the session and the files after it. -/
def run (action : Action α) (session : Session) (files : FileSystem) :
    Except TextError α × Session × FileSystem :=
  ((action session files).result, (action session files).session, (action session files).files)

@[simp] theorem run_bind (first : Action α) (next : α → Action β) (session : Session)
    (files : FileSystem) :
    (first >>= next).run session files =
      match first.run session files with
      | (.error failure, between, left) => (.error failure, between, left)
      | (.ok a, between, left) => (next a).run between left := by
  change (andThen first next).run session files = _
  unfold run andThen
  cases first session files with
  | mk result between left log => cases result <;> rfl

@[simp] theorem run_answer (a : α) (session : Session) (files : FileSystem) :
    (answer a).run session files = (.ok a, session, files) := rfl

@[simp] theorem run_fail (failure : TextError) (session : Session) (files : FileSystem) :
    (fail failure : Action α).run session files = (.error failure, session, files) := rfl

@[simp] theorem run_ofExcept (result : Except TextError α) (session : Session)
    (files : FileSystem) : (ofExcept result).run session files = (result, session, files) := by
  cases result <;> rfl

@[simp] theorem run_attempt (action : Action α) (session : Session) (files : FileSystem) :
    action.attempt.run session files =
      (.ok (action.run session files).1, (action.run session files).2) := rfl

@[simp] theorem run_session (session : Session) (files : FileSystem) :
    Action.session.run session files = (.ok session, session, files) := rfl

@[simp] theorem run_files (session : Session) (files : FileSystem) :
    Action.files.run session files = (.ok files, session, files) := rfl

@[simp] theorem run_modify (change : Session → Session) (session : Session)
    (files : FileSystem) : (modify change).run session files = (.ok (), change session, files) :=
  rfl

@[simp] theorem run_setFiles (after : FileSystem) (session : Session) (files : FileSystem) :
    (setFiles after).run session files = (.ok (), session, after) := rfl

@[simp] theorem run_send (log : List Log.Entry) (session : Session) (files : FileSystem) :
    (send log).run session files = (.ok (), session, files) := rfl

@[simp] theorem run_tell (level : Log.Level) (message : String) (session : Session)
    (files : FileSystem) : (tell level message).run session files = (.ok (), session, files) :=
  rfl

@[simp] theorem run_mapError (operation : Operation) (result : Except IoError α) (session : Session)
    (files : FileSystem) :
    (io operation result).run session files =
      (result.mapError (TextError.io operation session.path), session, files) := by
  cases result <;> rfl

@[simp] theorem run_notOpen (operation : Operation) (session : Session) (files : FileSystem) :
    (notOpen operation : Action α).run session files =
      (.error (.notOpen operation session.path), session, files) := rfl

end Action

namespace Session

open Bytemark.Action

/-- A session that was closed is still the one it was, its cursor aside. -/
@[simp] theorem released_path (session : Session) : session.released.path = session.path := rfl

@[simp] theorem released_settings (session : Session) :
    session.released.settings = session.settings := rfl

@[simp] theorem released_resolver (session : Session) :
    session.released.resolver = session.resolver := rfl

@[simp] theorem released_exists (session : Session) (files : FileSystem) :
    session.released.exists? files = session.exists? files := rfl

@[simp] theorem released_released (session : Session) :
    session.released.released = session.released := rfl

@[simp] theorem run_close (session : Session) (files : FileSystem) :
    close.run session files = (.ok (), session.released, files) := by
  cases held : session.cursor <;> simp [close, held]

/-- Whatever an operation answers, the session is closed behind it. -/
@[simp] theorem run_thenClose {α : Type} (action : Action α) (session : Session)
    (files : FileSystem) :
    (thenClose action).run session files =
      ((action.run session files).1, (action.run session files).2.1.released,
        (action.run session files).2.2) := by
  simp [thenClose]

/-! ### Reading -/

/-- The session with a reader open. -/
def reading (session : Session) (cursor : ReadCursor) : Session :=
  { session.released with
    cursor := .reading cursor
    encoding := some cursor.resolution.encoding
    hasSignature := cursor.resolution.hasSignature }

@[simp] theorem released_reading (session : Session) (cursor : ReadCursor) :
    (session.reading cursor).released = session.released := rfl

/-- Opening a reader fails with the session closed, or leaves it with the reader. -/
theorem run_openRead (session : Session) (files : FileSystem) :
    openRead.run session files =
      match (ReadCursor.openFile files session.path session.resolver).1 with
      | .error cause => (.error (.io .openForRead session.path cause), session.released, files)
      | .ok cursor => (.ok (), session.reading cursor, files) := by
  cases opening : ReadCursor.openFile files session.path session.resolver with
  | mk result log => cases result <;> simp [openRead, opening, Except.mapError, reading]

/-- A file that can be found is opened. -/
theorem run_openRead_of_file {session : Session} {files : FileSystem} {location : Location}
    {id : FileId} (found : files.find session.path = .ok (location, .file id)) :
    ∃ cursor, openRead.run session files = (.ok (), session.reading cursor, files) ∧
      cursor.Settled id ∧
      (cursor.look files).Holds
        (session.resolver.text (files.content id)).toList ∧
      (cursor.look files).skipsLf = false := by
  obtain ⟨cursor, opened, resolution, settled, holds, skips⟩ :=
    ReadCursor.openFile_of_file found session.resolver
  refine ⟨cursor, ?_, settled, holds, skips⟩
  rw [run_openRead, opened]

theorem run_readLine {session : Session} {cursor : ReadCursor}
    (opened : session.cursor = .reading cursor) (files : FileSystem) :
    readLine.run session files =
      ((cursor.readLine files).1.mapError (TextError.io .readLine session.path),
        { session with cursor := .reading (cursor.readLine files).2 }, files) := by
  simp [readLine, opened]

theorem run_readRemaining {session : Session} {cursor : ReadCursor}
    (opened : session.cursor = .reading cursor) (files : FileSystem) :
    readRemaining.run session files =
      ((cursor.readRemaining files).1.mapError (TextError.io .readAll session.path),
        { session with cursor := .reading (cursor.readRemaining files).2 }, files) := by
  simp [readRemaining, opened]

theorem run_visit {σ : Type} {session : Session} {cursor : ReadCursor}
    (opened : session.cursor = .reading cursor) (files : FileSystem)
    (see : σ → String → Visit σ) (state : σ) :
    (visit see state).run session files =
      (.ok ((cursor.visit files see state).1, (cursor.visit files see state).2.1),
        { session with cursor := .reading (cursor.visit files see state).2.2 }, files) := by
  simp [visit, opened]

theorem run_readAllWith (encoding : Encoding) (session : Session) (files : FileSystem) :
    (readAllWith encoding).run session files =
      ((files.loadWith session.path encoding).mapError (TextError.io .readAll session.path),
        session.released, files) := by
  simp [readAllWith]

/-- Probing and scanning leave the session as it is. -/
theorem run_probe (session : Session) (files : FileSystem) :
    probe.run session files =
      ((session.resolver.resolveFile files session.path).1.mapError
        (TextError.io .probeEncoding session.path), session, files) := by
  simp [probe]

theorem run_scanning {α : Type}
    (scan : Scanner → FileSystem → Except TextError α × List Log.Entry) (session : Session)
    (files : FileSystem) :
    (scanning scan).run session files = ((scan session.scanner files).1, session, files) := by
  simp [scanning]

/-- The text of a file is read in full, and nothing else happens. -/
theorem run_readAll_of_file {session : Session} {files : FileSystem} {location : Location}
    {id : FileId} (found : files.find session.path = .ok (location, .file id)) :
    readAll.run session files =
      (.ok (session.resolver.text (files.content id)), session.released, files) := by
  obtain ⟨cursor, opened, settled, holds, -⟩ := run_openRead_of_file found
  have remaining := ReadCursor.readRemaining_of_holds holds
  rw [String.ofList_toList] at remaining
  have held : (session.reading cursor).cursor = .reading cursor := rfl
  have reads := run_readRemaining held files
  rw [remaining] at reads
  simp only [readAll, run_bind, opened, run_thenClose, reads]
  rfl

/-- The lines of a file are read in full, and nothing else happens. -/
theorem run_readLines_of_file {session : Session} {files : FileSystem} {location : Location}
    {id : FileId} (found : files.find session.path = .ok (location, .file id)) :
    readLines.run session files =
      (.ok (Lines.ofText (session.resolver.text (files.content id))), session.released, files) := by
  obtain ⟨cursor, opened, -, holds, skips⟩ := run_openRead_of_file found
  obtain ⟨seen, outcome⟩ :=
    ReadCursor.visit_of_holds holds skips (fun seen line => .more (line :: seen)) []
  rw [Visit.through_noting, List.append_nil] at seen
  have visits := run_visit (show (session.reading cursor).cursor = .reading cursor from rfl) files
    (fun seen line => .more (line :: seen)) []
  rw [seen, outcome] at visits
  simp only [readLines, run_bind, opened, run_thenClose, readRemainingLines, visits, run_mapError,
    Except.mapError, run_answer, List.reverse_reverse]
  rfl

end Session

end Bytemark
