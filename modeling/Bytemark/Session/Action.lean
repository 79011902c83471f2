/-
Module: Bytemark.Session.Action
Purpose: Text file sessions, and the effects that their operations have.
Trusted boundary: none
Main exports: Cursor, Session, Outcome, Action
-/
import Bytemark.Files.ReadCursor
import Bytemark.Files.WriteCursor
import Bytemark.Scan.Scanner

namespace Bytemark

/-!
An operation on a session can fail, can change the session and the files, and
can send messages.  `Action` is the type of such operations; a failure ends the
operations that follow but keeps the changes made so far.
-/

/-- What a session holds open. -/
inductive Cursor where
  | closed
  | reading (cursor : ReadCursor)
  | writing (cursor : WriteCursor)
deriving Repr, Inhabited, DecidableEq

/-- A path with at most one open cursor. -/
structure Session where
  path : String
  settings : TextSettings
  logger : Logger
  cursor : Cursor
  /-- The encoding of the open cursor. -/
  encoding : Option Encoding
  /-- Whether the open file begins with a signature. -/
  hasSignature : Bool
deriving Repr, Inhabited, DecidableEq

/-- A session that has nothing open. -/
def Session.new (path : String) (settings : TextSettings) (logger : Logger) : Session :=
  { path, settings, logger, cursor := .closed, encoding := none, hasSignature := false }

/-- The result of an operation, and everything as it is afterwards. -/
structure Outcome (α : Type) where
  result : Except TextError α
  session : Session
  files : FileSystem
  log : List Log.Entry
deriving Repr

/-- An operation of a session on the files. -/
def Action (α : Type) : Type := Session → FileSystem → Outcome α

namespace Action

variable {α β : Type}

/-- Does nothing but answer. -/
def answer (a : α) : Action α := fun session files => ⟨.ok a, session, files, []⟩

/-- Goes on with what a first operation answered. -/
def andThen (first : Action α) (next : α → Action β) : Action β := fun session files =>
  let before := first session files
  match before.result with
  | .error failure => ⟨.error failure, before.session, before.files, before.log⟩
  | .ok a =>
      let after := next a before.session before.files
      { after with log := before.log ++ after.log }

instance : Monad Action where
  pure := answer
  bind := andThen

/-- Fails. -/
def fail (failure : TextError) : Action α := fun session files =>
  ⟨.error failure, session, files, []⟩

/-- Answers with a result that may be a failure. -/
def ofExcept : Except TextError α → Action α
  | .ok a => answer a
  | .error failure => fail failure

/-- Runs an operation and hands its failure on as an answer. -/
def attempt (action : Action α) : Action (Except TextError α) := fun session files =>
  let after := action session files
  ⟨.ok after.result, after.session, after.files, after.log⟩

/-- The session as it is. -/
def session : Action Session := fun session files => ⟨.ok session, session, files, []⟩

/-- The files as they are. -/
def files : Action FileSystem := fun session files => ⟨.ok files, session, files, []⟩

/-- Changes the session. -/
def modify (change : Session → Session) : Action Unit := fun session files =>
  ⟨.ok (), change session, files, []⟩

/-- Replaces the files. -/
def setFiles (after : FileSystem) : Action Unit := fun session _ =>
  ⟨.ok (), session, after, []⟩

/-- Sends messages that a logger has kept. -/
def send (log : List Log.Entry) : Action Unit := fun session files =>
  ⟨.ok (), session, files, log⟩

/-- Sends one message to the logger of the session. -/
def tell (level : Log.Level) (message : String) : Action Unit := fun session files =>
  ⟨.ok (), session, files, session.logger.record level message⟩

/-- Answers with a result from a stream, a failure being reported under an
operation. -/
def io (operation : Operation) (result : Except IoError α) : Action α :=
  fun session files =>
    match result with
    | .ok a => ⟨.ok a, session, files, []⟩
    | .error cause => ⟨.error (.io operation session.path cause), session, files, []⟩

/-- Fails because a cursor is missing. -/
def notOpen (operation : Operation) : Action α := fun session files =>
  ⟨.error (.notOpen operation session.path), session, files, []⟩

end Action

end Bytemark
