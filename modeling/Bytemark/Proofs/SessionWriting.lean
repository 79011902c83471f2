/-
Module: Bytemark.Proofs.SessionWriting
Purpose: What the writing operations of a session come to, messages aside.
Trusted boundary: none
Main exports: Session.run_openWrite, Session.run_openWrite_begun, Session.run_openWrite_anew,
  Session.run_openWrite_over, Session.run_openWrite_new, Session.run_openAppend_eq,
  Session.advanced, Session.run_writeUnder_taken, Session.run_writeUnder_of_file
-/
import Bytemark.Proofs.FileWriting
import Bytemark.Proofs.SessionRun

namespace Bytemark

namespace Session

open Bytemark.Action FileSystem

/-- What is known of the file before it is opened for writing, as far as it is
looked at. -/
def existing (session : Session) (files : FileSystem) (append : Bool)
    (encoding : Option Encoding) : Except IoError (Option Resolution) :=
  if session.exists? files &&
      (append || (encoding.isNone && session.settings.keepExistingSignature))
  then (session.resolver.resolveFile files session.path).1.map some
  else .ok none

/-- The encoding that a writer gets. -/
def chosen (session : Session) (encoding : Option Encoding) (existing : Option Resolution) :
    Encoding :=
  (encoding.or (existing.map Resolution.encoding)).getD session.settings.defaultEncoding

/-- The session with a writer open. -/
def writing (session : Session) (cursor : WriteCursor) (encoding : Encoding)
    (hasSignature : Bool) : Session :=
  { session.released with cursor := .writing cursor, encoding := some encoding, hasSignature }

@[simp] theorem released_writing (session : Session) (cursor : WriteCursor)
    (encoding : Encoding) (hasSignature : Bool) :
    (session.writing cursor encoding hasSignature).released = session.released := rfl

/-- Opening a writer looks at the file, chooses the encoding and opens the file. -/
theorem run_openWrite (append : Bool) (encoding : Option Encoding) (session : Session)
    (files : FileSystem) :
    (openWrite append encoding).run session files =
      match session.existing files append encoding with
      | .error cause => (.error (.io .openForWrite session.path cause), session.released, files)
      | .ok existing =>
          match WriteCursor.openFile files session.path (session.chosen encoding existing)
              (append && session.exists? files) with
          | (.error cause, after) =>
              (.error (.io .openForWrite session.path cause), session.released, after)
          | (.ok cursor, after) =>
              (.ok (), session.writing cursor (session.chosen encoding existing)
                (if append && session.exists? files then existing.any Resolution.hasSignature
                  else cursor.wroteSignature), after) := by
  unfold openWrite existing
  simp only [run_bind, run_close, run_session, run_files, released_path, released_settings,
    released_resolver, released_exists]
  by_cases present : (session.exists? files &&
      (append || encoding.isNone && session.settings.keepExistingSignature)) = true
  · simp only [present, if_true, run_bind, run_files, run_send, run_mapError, released_path]
    cases (session.resolver.resolveFile files session.path).1 with
    | error cause => rfl
    | ok resolution =>
        simp only [Except.mapError, Except.map, run_answer, run_setFiles, released_path, chosen]
        cases WriteCursor.openFile files session.path
            ((encoding.or (Option.map Resolution.encoding (some resolution))).getD
              session.settings.defaultEncoding) (append && session.exists? files) with
        | mk result after => cases result <;> rfl
  · simp only [present, if_false, Bool.false_eq_true, run_bind, run_answer, run_files,
      run_setFiles, run_mapError, released_path, chosen]
    cases WriteCursor.openFile files session.path
        ((encoding.or (Option.map Resolution.encoding none)).getD
          session.settings.defaultEncoding) (append && session.exists? files) with
    | mk result after => cases result <;> rfl

/-- A text is written in full or not at all. -/
theorem run_writeUnder {session : Session} {cursor : WriteCursor}
    (opened : session.cursor = .writing cursor) (operation : Operation) (text : String)
    (files : FileSystem) :
    (writeUnder operation text).run session files =
      match cursor.encoding.encode text with
      | .error refusal =>
          (.error (.unsupportedEncoding operation session.path refusal), session, files)
      | .ok octets =>
          ((cursor.write files octets).1.mapError (TextError.io operation session.path),
            { session with cursor := .writing (cursor.write files octets).2.1 },
            (cursor.write files octets).2.2) := by
  simp only [writeUnder, run_bind, run_session, opened]
  cases cursor.encoding.encode text <;> simp

/-- The session has a writer open that encodes in this way and writes to this
file, at the end or at an offset of its own. -/
def Writes (session : Session) (encoding : Encoding) (id : FileId) (mode : WriteMode) : Prop :=
  ∃ cursor, session.cursor = .writing cursor ∧ session.encoding = some encoding ∧
    cursor.encoding = encoding ∧ cursor.handle = ⟨.file id, mode⟩

theorem Writes.encoding_eq {session : Session} {encoding : Encoding} {id : FileId}
    {mode : WriteMode} (writes : session.Writes encoding id mode) :
    session.encoding = some encoding := by
  rcases writes with ⟨cursor, -, known, -⟩
  exact known

/-- The session that has just begun its file with the signature of an encoding. -/
def begun (session : Session) (id : FileId) (used : Encoding) : Session :=
  session.writing (.anew id used) used (!used.signatureOctets.isEmpty)

theorem writes_begun (session : Session) (id : FileId) (used : Encoding) :
    (session.begun id used).Writes used id (.overwrite used.signatureOctets.length) :=
  ⟨_, rfl, rfl, rfl, rfl⟩

/-- A session that starts a file anew either changes nothing, or stands behind
the signature of the encoding that it has chosen. -/
theorem run_openWrite_begun {session : Session} {files : FileSystem} {append : Bool}
    (wellFormed : files.WellFormed) (regular : files.Regular session.path)
    (anew : (append && session.exists? files) = false) (encoding : Option Encoding) :
    (∃ failure, (openWrite append encoding).run session files =
        (.error failure, session.released, files)) ∨
      ∃ location id used after,
        (openWrite append encoding).run session files = (.ok (), session.begun id used, after) ∧
        after.find session.path = .ok (location, .file id) ∧ after.WellFormed ∧
        after.content id = used.signatureOctets := by
  rw [run_openWrite, anew]
  cases session.existing files append encoding with
  | error cause => exact .inl ⟨_, rfl⟩
  | ok existing =>
      dsimp only
      generalize session.chosen encoding existing = used
      rcases WriteCursor.openFile_anew wellFormed regular used with
        ⟨cause, fails⟩ | ⟨location, id, after, opens, found, kept, signed⟩
      · rw [fails]
        exact .inl ⟨_, rfl⟩
      · rw [opens]
        exact .inr ⟨location, id, used, after, rfl, found, kept, signed⟩

theorem run_openWrite_anew {session : Session} {files : FileSystem} {append : Bool}
    (wellFormed : files.WellFormed) (regular : files.Regular session.path)
    (anew : (append && session.exists? files) = false) (encoding : Option Encoding) :
    (∃ failure, (openWrite append encoding).run session files =
        (.error failure, session.released, files)) ∨
      ∃ location id used next after,
        (openWrite append encoding).run session files = (.ok (), next, after) ∧
        after.find session.path = .ok (location, .file id) ∧ after.WellFormed ∧
        after.content id = used.signatureOctets ∧ next.path = session.path ∧
        next.Writes used id (.overwrite used.signatureOctets.length) := by
  rcases run_openWrite_begun wellFormed regular anew encoding with
    fails | ⟨location, id, used, after, opens, found, kept, signed⟩
  · exact .inl fails
  · exact .inr ⟨location, id, used, _, after, opens, found, kept, signed, rfl,
      writes_begun session id used⟩

/-- The encoding in which a file that is there is begun anew. -/
def renewed (session : Session) (encoding : Option Encoding) (held : Octets) : Encoding :=
  encoding.getD
    (if session.settings.keepExistingSignature then
      (Resolution.ofOctets held session.settings.defaultEncoding).encoding
    else session.settings.defaultEncoding)

/-- A file that is there is always begun anew: in the encoding that is asked for, or in
its own where signatures are kept, or in the default one. -/
theorem run_openWrite_over {session : Session} {files : FileSystem} {location : Location}
    {id : FileId} (wellFormed : files.WellFormed)
    (found : files.find session.path = .ok (location, .file id)) (encoding : Option Encoding) :
    let used := session.renewed encoding (files.content id)
    ∃ after, (openWrite false encoding).run session files = (.ok (), session.begun id used, after) ∧
      after.content id = used.signatureOctets ∧ SameNames files after := by
  intro used
  have known : ∃ known, session.existing files false encoding = .ok known ∧
      session.chosen encoding known = used := by
    have present : session.exists? files = true := exists_of_find found
    have resolved := Resolver.resolveFile_of_file found session.resolver
    cases encoding with
    | some asked => exact ⟨none, by simp [existing], rfl⟩
    | none =>
        cases keeps : session.settings.keepExistingSignature with
        | false => exact ⟨none, by simp [existing, keeps], by simp [used, renewed, keeps, chosen]⟩
        | true =>
            refine ⟨some (.ofOctets (files.content id) session.settings.defaultEncoding), ?_, ?_⟩
            · simp only [existing, present, keeps, resolved]
              rfl
            · simp [used, renewed, keeps, chosen]
  obtain ⟨existing, looked, chooses⟩ := known
  obtain ⟨after, opens, signed, names⟩ := WriteCursor.openFile_of_file wellFormed found used
  refine ⟨after, ?_, signed, names⟩
  rw [run_openWrite, looked, Bool.false_and]
  dsimp only
  rw [chooses, opens]
  rfl

/-- Where nothing is, a file is begun in the encoding that is asked for or in the
default one, unless it cannot be opened. -/
theorem run_openWrite_new {session : Session} {files : FileSystem}
    (wellFormed : files.WellFormed) (missing : session.exists? files = false) (append : Bool)
    (encoding : Option Encoding) :
    let used := encoding.getD session.settings.defaultEncoding
    (∃ failure, (openWrite append encoding).run session files =
        (.error failure, session.released, files)) ∨
      ∃ location id after,
        (openWrite append encoding).run session files = (.ok (), session.begun id used, after) ∧
        after.find session.path = .ok (location, .file id) ∧ after.WellFormed ∧
        after.content id = used.signatureOctets := by
  intro used
  have looked : session.existing files append encoding = .ok none := by
    simp [existing, missing]
  have chooses : session.chosen encoding none = used := by
    cases encoding <;> rfl
  rw [run_openWrite, looked, missing, Bool.and_false]
  dsimp only
  rw [chooses]
  rcases WriteCursor.openFile_anew wellFormed (regular_of_missing missing) used with
    ⟨cause, fails⟩ | ⟨location, id, after, opens, found, kept, signed⟩
  · rw [fails]
    exact .inl ⟨_, rfl⟩
  · rw [opens]
    exact .inr ⟨location, id, after, rfl, found, kept, signed⟩

/-- A session that appends to a file leaves it as it is when it opens it, and goes
on in the encoding of the file unless it is told another one. -/
theorem run_openAppend_eq {session : Session} {files : FileSystem} {location : Location}
    {id : FileId} (found : files.find session.path = .ok (location, .file id))
    (encoding : Option Encoding) :
    let resolution := Resolution.ofOctets (files.content id) session.settings.defaultEncoding
    let used := session.chosen encoding (some resolution)
    (openAppend encoding).run session files =
      (.ok (), session.writing ⟨⟨.file id, .append⟩, used, 0, false⟩ used resolution.hasSignature,
        files) := by
  intro resolution used
  have present : session.exists? files = true := exists_of_find found
  have known : session.existing files true encoding = .ok (some resolution) := by
    rw [existing, present, Bool.true_or, Bool.true_and, if_pos rfl,
      Resolver.resolveFile_of_file found]
    rfl
  rw [openAppend, run_openWrite, known, present, Bool.true_and]
  dsimp only
  rw [WriteCursor.openFile_append found]
  rfl

theorem run_openAppend_of_file {session : Session} {files : FileSystem} {location : Location}
    {id : FileId} (found : files.find session.path = .ok (location, .file id))
    (encoding : Option Encoding) :
    ∃ used next, (openAppend encoding).run session files = (.ok (), next, files) ∧
      next.path = session.path ∧ next.Writes used id .append :=
  ⟨_, _, run_openAppend_eq found encoding, rfl, _, rfl, rfl, rfl, rfl⟩

/-- The session behind octets that it has written. -/
def advanced (session : Session) (octets : Octets) : Session :=
  match session.cursor with
  | .writing cursor => { session with cursor := .writing (cursor.wrote octets) }
  | _ => session

@[simp] theorem path_advanced (session : Session) (octets : Octets) :
    (session.advanced octets).path = session.path := by
  unfold advanced
  split <;> rfl

@[simp] theorem released_advanced (session : Session) (octets : Octets) :
    (session.advanced octets).released = session.released := by
  unfold advanced
  split <;> rfl

@[simp] theorem advanced_nil (session : Session) : session.advanced [] = session := by
  rcases session with ⟨path, settings, logger, cursor, encoding, hasSignature⟩
  cases cursor with
  | closed => rfl
  | reading cursor => rfl
  | writing cursor =>
      simp only [Session.advanced, WriteCursor.wrote, List.length_nil, WriteMode.advance_zero,
        Nat.add_zero]

/-- Octets may be joined before they are written. -/
theorem advanced_advanced (session : Session) (first second : Octets) :
    (session.advanced first).advanced second = session.advanced (first ++ second) := by
  rcases session with ⟨path, settings, logger, cursor, encoding, hasSignature⟩
  cases cursor with
  | closed => rfl
  | reading cursor => rfl
  | writing cursor =>
      simp only [Session.advanced, WriteCursor.wrote, WriteMode.advance_advance,
        List.length_append, Nat.add_assoc]

theorem Writes.advanced {session : Session} {encoding : Encoding} {id : FileId}
    {mode : WriteMode} (writes : session.Writes encoding id mode) (octets : Octets) :
    (session.advanced octets).Writes encoding id (mode.advance octets.length) := by
  rcases writes with ⟨cursor, opened, known, same, handle⟩
  simp only [Session.advanced, opened]
  refine ⟨_, rfl, known, same, ?_⟩
  rw [WriteCursor.wrote, handle]

/-- A text that has octets is written to a file. -/
theorem run_writeUnder_taken {session : Session} {files : FileSystem} {encoding : Encoding}
    {id : FileId} {mode : WriteMode} (writes : session.Writes encoding id mode)
    (present : id < files.contents.length) (within : mode.Within (files.content id))
    (operation : Operation) {text : String} {octets : Octets}
    (encoded : encoding.encode text = .ok octets) :
    ∃ after, (writeUnder operation text).run session files =
        (.ok (), session.advanced octets, after) ∧
      after.content id = mode.put (files.content id) octets ∧ SameNames files after := by
  rcases writes with ⟨cursor, opened, -, rfl, handle⟩
  obtain ⟨after, wrote, content, names⟩ :=
    WriteCursor.write_of_file handle present within octets
  refine ⟨after, ?_, content, names⟩
  rw [run_writeUnder opened, encoded]
  simp only [wrote, Except.mapError, advanced, opened]

/-- A text without octets is refused, and nothing happens. -/
theorem run_writeUnder_refused {session : Session} {encoding : Encoding} {id : FileId}
    {mode : WriteMode} (writes : session.Writes encoding id mode) (operation : Operation)
    {text : String} {refusal : Unencodable} (lacks : encoding.encode text = .error refusal)
    (files : FileSystem) :
    (writeUnder operation text).run session files =
      (.error (.unsupportedEncoding operation session.path refusal), session, files) := by
  rcases writes with ⟨cursor, opened, -, rfl, -⟩
  rw [run_writeUnder opened, lacks]

/-- Writing a text to a file fails only if the text has no octets, and then
changes nothing. -/
theorem run_writeUnder_of_file {session : Session} {files : FileSystem} {encoding : Encoding}
    {id : FileId} {mode : WriteMode} (writes : session.Writes encoding id mode)
    (present : id < files.contents.length) (within : mode.Within (files.content id))
    (operation : Operation) (text : String) :
    (∃ refusal, encoding.encode text = .error refusal ∧
      (writeUnder operation text).run session files =
        (.error (.unsupportedEncoding operation session.path refusal), session, files)) ∨
    ∃ octets next after, encoding.encode text = .ok octets ∧
      (writeUnder operation text).run session files = (.ok (), next, after) ∧
      next.path = session.path ∧ next.Writes encoding id (mode.advance octets.length) ∧
      after.content id = mode.put (files.content id) octets ∧ SameNames files after := by
  cases encoded : encoding.encode text with
  | error refusal =>
      exact .inl ⟨refusal, rfl, run_writeUnder_refused writes operation encoded files⟩
  | ok octets =>
      obtain ⟨after, wrote, content, names⟩ :=
        run_writeUnder_taken writes present within operation encoded
      exact .inr ⟨octets, _, after, rfl, wrote, session.path_advanced octets,
        writes.advanced octets, content, names⟩

end Session

end Bytemark
