/-
Module: Bytemark.Proofs.DiscreetActions
Purpose: The operations of a session do the same whoever listens.
Trusted boundary: none
Main exports: Session.logged, Outcome.told, Action.Discreet, Action.Discreet.bind,
  Action.discreet_session, Session.discreet_action
-/
import Bytemark.Proofs.SentMessages
import Bytemark.Proofs.SessionStates

namespace Bytemark

/-!
An operation of a session is made of small actions, and each of them has one outcome
for all loggers: the same answer, the same files, the same session but for its logger,
and one list of messages of which each logger keeps its part.  This is kept when
actions follow each other, so it holds of every operation.
-/

/-- The session with another logger. -/
def Session.logged (session : Session) (logger : Logger) : Session := { session with logger }

/-- The outcome as it is under a logger. -/
def Outcome.told {α : Type} (outcome : Outcome α) (logger : Logger) : Outcome α :=
  { outcome with session := outcome.session.logged logger, log := logger.kept outcome.log }

namespace Action

open Logger

variable {α β : Type}

/-- An action that has one outcome for all loggers.  The action is given for every
logger, since what is done in the middle of an operation holds the session as it was at
its start, logger included. -/
def Discreet (action : Logger → Action α) : Prop :=
  ∀ (session : Session) (files : FileSystem), ∃ outcome : Outcome α, ∀ logger,
    action logger (session.logged logger) files = outcome.told logger

theorem discreet_answer (a : α) : Discreet fun _ => answer a :=
  fun session files => ⟨⟨.ok a, session, files, []⟩, fun _ => rfl⟩

theorem discreet_fail (failure : TextError) : Discreet fun _ => (fail failure : Action α) :=
  fun session files => ⟨⟨.error failure, session, files, []⟩, fun _ => rfl⟩

theorem discreet_ofExcept (result : Except TextError α) : Discreet fun _ => ofExcept result := by
  cases result with
  | error failure => exact discreet_fail failure
  | ok a => exact discreet_answer a

theorem discreet_files : Discreet fun _ => Action.files :=
  fun session files => ⟨⟨.ok files, session, files, []⟩, fun _ => rfl⟩

theorem discreet_setFiles (after : FileSystem) : Discreet fun _ => setFiles after :=
  fun session _ => ⟨⟨.ok (), session, after, []⟩, fun _ => rfl⟩

theorem discreet_modify {change : Session → Session}
    (keeps : ∀ session logger, change (session.logged logger) = (change session).logged logger) :
    Discreet fun _ => modify change := by
  intro session files
  refine ⟨⟨.ok (), change session, files, []⟩, fun logger => ?_⟩
  exact congrArg (fun changed => Outcome.mk (.ok ()) changed files []) (keeps session logger)

theorem discreet_tell (level : Log.Level) (message : String) :
    Discreet fun _ => tell level message := by
  intro session files
  refine ⟨⟨.ok (), session, files, [⟨level, message⟩]⟩, fun logger => ?_⟩
  unfold Outcome.told
  rw [kept_singleton]
  rfl

theorem discreet_send {logs : Logger → List Log.Entry} (hears : Hears logs) :
    Discreet fun logger => send (logs logger) := by
  intro session files
  obtain ⟨log, heard⟩ := hears
  refine ⟨⟨.ok (), session, files, log⟩, fun logger => ?_⟩
  exact congrArg (Outcome.mk (.ok ()) (session.logged logger) files) (heard logger)

theorem discreet_io (operation : Operation) (result : Except IoError α) :
    Discreet fun _ => io operation result := by
  intro session files
  cases result with
  | error cause =>
      exact ⟨⟨.error (.io operation session.path cause), session, files, []⟩, fun _ => rfl⟩
  | ok a => exact ⟨⟨.ok a, session, files, []⟩, fun _ => rfl⟩

theorem discreet_notOpen (operation : Operation) :
    Discreet fun _ => (notOpen operation : Action α) := by
  intro session files
  exact ⟨⟨.error (.notOpen operation session.path), session, files, []⟩, fun _ => rfl⟩

theorem Discreet.bind {first : Logger → Action α} {next : Logger → α → Action β}
    (before : Discreet first) (behind : ∀ a, Discreet fun logger => next logger a) :
    Discreet fun logger => first logger >>= next logger := by
  intro session files
  obtain ⟨⟨result, between, left, log⟩, same⟩ := before session files
  cases result with
  | error failure =>
      refine ⟨⟨.error failure, between, left, log⟩, fun logger => ?_⟩
      change andThen (first logger) (next logger) _ _ = _
      unfold andThen
      rw [same]
      rfl
  | ok a =>
      obtain ⟨outcome, alike⟩ := behind a between left
      refine ⟨{ outcome with log := log ++ outcome.log }, fun logger => ?_⟩
      change andThen (first logger) (next logger) _ _ = _
      unfold andThen
      rw [same]
      have continued : next logger a (between.logged logger) left = outcome.told logger :=
        alike logger
      dsimp only [Outcome.told]
      rw [continued, kept_append]
      rfl

/-- What is done with the session may look at all of it but its logger. -/
theorem discreet_session {next : Session → Action β}
    (behind : ∀ session : Session, Discreet fun logger => next (session.logged logger)) :
    Discreet fun _ => Action.session >>= next := by
  intro session files
  obtain ⟨outcome, alike⟩ := behind session session files
  refine ⟨outcome, fun logger => ?_⟩
  change andThen Action.session next _ _ = _
  unfold andThen
  exact alike logger

theorem Discreet.ite {condition : Prop} [Decidable condition] {first second : Logger → Action α}
    (yes : Discreet first) (no : Discreet second) :
    Discreet fun logger => if condition then first logger else second logger := by
  by_cases holds : condition
  · simp only [if_pos holds]
    exact yes
  · simp only [if_neg holds]
    exact no

theorem Discreet.attempt {action : Logger → Action α} (discreet : Discreet action) :
    Discreet fun logger => (action logger).attempt := by
  intro session files
  obtain ⟨outcome, same⟩ := discreet session files
  refine ⟨⟨.ok outcome.result, outcome.session, outcome.files, outcome.log⟩, fun logger => ?_⟩
  exact congrArg (fun after : Outcome α => Outcome.mk (.ok after.result) after.session after.files
    after.log) (same logger)

end Action

/-! ### Operations -/

namespace Session

open Bytemark.Action Logger

section

variable (session : Session) (logger : Logger)

@[simp] theorem logged_path : (session.logged logger).path = session.path := rfl

@[simp] theorem logged_settings : (session.logged logger).settings = session.settings := rfl

@[simp] theorem logged_cursor : (session.logged logger).cursor = session.cursor := rfl

@[simp] theorem logged_exists (files : FileSystem) :
    (session.logged logger).exists? files = session.exists? files := rfl

@[simp] theorem resolver_logged :
    (session.logged logger).resolver = session.resolver.logged logger := rfl

@[simp] theorem scanner_logged :
    (session.logged logger).scanner = session.scanner.logged logger := rfl

end

theorem discreet_close : Discreet fun _ => close := by
  apply discreet_session
  intro session
  have releases : Discreet fun _ => modify released := discreet_modify fun _ _ => rfl
  simp only [logged_cursor, logged_path]
  cases session.cursor with
  | closed => exact (discreet_answer ()).bind fun _ => releases
  | reading cursor => exact (discreet_answer ()).bind fun _ => releases
  | writing cursor => exact (discreet_tell .debug _).bind fun _ => releases

theorem discreet_probe : Discreet fun _ => probe := by
  apply discreet_session
  intro session
  apply discreet_files.bind
  intro files
  simp only [resolver_logged, logged_path, Resolver.resolveFile_logged]
  apply (discreet_send (session.resolver.hears_resolveFile files session.path)).bind
  intro _
  exact discreet_io .probeEncoding _

theorem discreet_openRead : Discreet fun _ => openRead := by
  apply discreet_close.bind
  intro _
  apply discreet_session
  intro session
  apply discreet_files.bind
  intro files
  simp only [resolver_logged, logged_path, Resolver.openFile_logged]
  apply (discreet_send (session.resolver.hears_openFile files session.path)).bind
  intro _
  apply (discreet_io .openForRead _).bind
  intro cursor
  apply (discreet_modify _).bind
  · intro _
    exact discreet_tell .info _
  · intro session logger
    rfl

/-- What is done with an open reader is discreet if it is so with each reader. -/
theorem discreet_reading {α : Type} (operation : Operation) (use : ReadCursor → Action α)
    (discreet : ∀ cursor, Discreet fun _ => use cursor) :
    Discreet fun _ => (do
      match (← Action.session).cursor with
      | .reading cursor => use cursor
      | _ => Action.notOpen operation : Action α) := by
  apply discreet_session
  intro session
  simp only [logged_cursor]
  cases session.cursor with
  | closed => exact discreet_notOpen operation
  | writing cursor => exact discreet_notOpen operation
  | reading cursor => exact discreet cursor

theorem discreet_readLine : Discreet fun _ => readLine := by
  apply discreet_reading .readLine
  intro cursor
  apply discreet_files.bind
  intro files
  apply (discreet_modify fun _ _ => rfl).bind
  intro _
  exact discreet_io .readLine _

theorem discreet_readRemaining : Discreet fun _ => readRemaining := by
  apply discreet_reading .readAll
  intro cursor
  apply discreet_files.bind
  intro files
  apply (discreet_modify fun _ _ => rfl).bind
  intro _
  exact discreet_io .readAll _

theorem discreet_visit {σ : Type} (see : σ → String → Visit σ) (state : σ) :
    Discreet fun _ => visit see state := by
  apply discreet_reading .readLine
  intro cursor
  apply discreet_files.bind
  intro files
  apply (discreet_modify fun _ _ => rfl).bind
  intro _
  exact discreet_answer _

theorem discreet_readRemainingLines : Discreet fun _ => readRemainingLines := by
  apply (discreet_visit _ _).bind
  intro seen
  apply (discreet_io .readLine seen.2).bind
  intro _
  exact discreet_answer _

theorem Discreet.thenClose {α : Type} {action : Action α} (discreet : Discreet fun _ => action) :
    Discreet fun _ => thenClose action := by
  apply discreet.attempt.bind
  intro result
  apply discreet_close.bind
  intro _
  exact discreet_ofExcept result

theorem discreet_readAll : Discreet fun _ => readAll := by
  apply discreet_openRead.bind
  intro _
  exact Discreet.thenClose discreet_readRemaining

theorem discreet_readLines : Discreet fun _ => readLines := by
  apply discreet_openRead.bind
  intro _
  exact Discreet.thenClose discreet_readRemainingLines

theorem discreet_readAllWith (encoding : Encoding) : Discreet fun _ => readAllWith encoding := by
  apply discreet_close.bind
  intro _
  apply discreet_session
  intro session
  apply discreet_files.bind
  intro files
  simp only [logged_path]
  exact discreet_io .readAll _

/-- A scan that answers the same to all loggers. -/
theorem discreet_scanning {α : Type}
    (scan : Scanner → FileSystem → Except TextError α × List Log.Entry)
    (same : ∀ (scanner : Scanner) logger files,
      (scan (scanner.logged logger) files).1 = (scan scanner files).1)
    (hears : ∀ (scanner : Scanner) files,
      Hears fun logger => (scan (scanner.logged logger) files).2) :
    Discreet fun _ => scanning scan := by
  apply discreet_session
  intro session
  apply discreet_files.bind
  intro files
  simp only [scanner_logged, same]
  apply (discreet_send (hears session.scanner files)).bind
  intro _
  exact discreet_ofExcept _

theorem discreet_count (filter : Filter) : Discreet fun _ => count filter :=
  discreet_scanning (fun scanner files => scanner.count files filter)
    (fun scanner logger files => scanner.count_logged logger files filter)
    fun scanner files => scanner.hears_count files filter

theorem discreet_page (request : PageRequest) (filter : Filter) :
    Discreet fun _ => page request filter :=
  discreet_scanning (fun scanner files => scanner.page files request filter)
    (fun scanner logger files => scanner.page_logged logger files filter request)
    fun scanner files => scanner.hears_page files filter request

theorem discreet_pageJson (request : PageRequest) (filter : Filter) :
    Discreet fun _ => pageJson request filter := by
  apply (discreet_page request filter).bind
  intro page
  exact discreet_answer page.toJson

theorem discreet_tail (requested : Nat) (filter : Filter) :
    Discreet fun _ => tail requested filter :=
  discreet_scanning (fun scanner files => scanner.tail files requested filter)
    (fun scanner logger files => scanner.tail_logged logger files filter requested)
    fun scanner files => scanner.hears_tail files filter requested

/-- The last steps of opening a writer, when the encoding is chosen. -/
theorem discreet_begin (path purpose : String) (used : Encoding) (appending : Bool)
    (signed : WriteCursor → Bool) :
    Discreet fun _ => (do
      let (result, after) := WriteCursor.openFile (← Action.files) path used appending
      Action.setFiles after
      let cursor ← Action.io .openForWrite result
      Action.modify fun session =>
        { session with
          cursor := .writing cursor, encoding := some used, hasSignature := signed cursor }
      Action.tell .info (openedMessage path purpose used (signed cursor)) : Action Unit) := by
  apply discreet_files.bind
  intro files
  apply (discreet_setFiles _).bind
  intro _
  apply (discreet_io .openForWrite _).bind
  intro cursor
  apply (discreet_modify fun _ _ => rfl).bind
  intro _
  exact discreet_tell .info _

theorem discreet_openWrite (append : Bool) (encoding : Option Encoding) :
    Discreet fun _ => openWrite append encoding := by
  apply discreet_close.bind
  intro _
  apply discreet_session
  intro session
  apply discreet_files.bind
  intro files
  have behind (existing : Option Resolution) :=
    discreet_begin session.path (if append && session.exists? files then "append" else "write")
      (session.chosen encoding existing) (append && session.exists? files) fun cursor =>
        if append && session.exists? files then existing.any Resolution.hasSignature
        else cursor.wroteSignature
  simp only [logged_exists, logged_settings, logged_path, resolver_logged,
    Resolver.resolveFile_logged]
  apply Discreet.ite
  · apply discreet_files.bind
    intro current
    apply (discreet_send (session.resolver.hears_resolveFile current session.path)).bind
    intro _
    apply (discreet_io .openForWrite _).bind
    intro resolution
    apply (discreet_answer _).bind
    exact behind
  · apply (discreet_answer none).bind
    exact behind

theorem discreet_writeUnder (operation : Operation) (text : String) :
    Discreet fun _ => writeUnder operation text := by
  apply discreet_session
  intro session
  simp only [logged_cursor, logged_path]
  cases session.cursor with
  | closed => exact discreet_notOpen operation
  | reading cursor => exact discreet_notOpen operation
  | writing cursor =>
      dsimp only
      cases cursor.encoding.encode text with
      | error refusal => exact discreet_fail _
      | ok octets =>
          apply discreet_files.bind
          intro files
          apply (discreet_modify fun _ _ => rfl).bind
          intro _
          apply (discreet_setFiles _).bind
          intro _
          exact discreet_io operation _

theorem discreet_writeEach (texts : List String) : Discreet fun _ => writeEach texts := by
  induction texts with
  | nil => exact discreet_answer ()
  | cons text rest inductionHypothesis =>
      apply (discreet_writeUnder .writeLine _).bind
      intro _
      exact inductionHypothesis

theorem discreet_writeLines (texts : List String) : Discreet fun _ => writeLines texts := by
  apply discreet_session
  intro session
  change Discreet fun _ => if session.isWriting then writeEach texts else notOpen .writeLines
  apply Discreet.ite
  · exact discreet_writeEach texts
  · exact discreet_notOpen .writeLines

theorem discreet_writeAll (text : String) : Discreet fun _ => writeAll text := by
  apply (discreet_openWrite false none).bind
  intro _
  exact Discreet.thenClose (discreet_writeUnder .write text)

theorem discreet_writeAllLines (texts : List String) : Discreet fun _ => writeAllLines texts := by
  apply (discreet_openWrite false none).bind
  intro _
  exact Discreet.thenClose (discreet_writeLines texts)

/-- Every operation of a session has one outcome for all loggers. -/
theorem discreet_action (call : SessionCall) : Discreet fun _ => call.action := by
  cases call with
  | openRead => exact discreet_openRead
  | openWrite append encoding => exact discreet_openWrite append encoding
  | openAppend encoding => exact discreet_openWrite true encoding
  | readLine => exact discreet_readLine
  | readAll => exact discreet_readAll
  | readLines => exact discreet_readLines
  | readAllWith encoding => exact discreet_readAllWith encoding
  | count filter => exact discreet_count filter
  | page request filter => exact discreet_page request filter
  | pageJson request filter => exact discreet_pageJson request filter
  | tail requested filter => exact discreet_tail requested filter
  | probe => exact discreet_probe
  | write text => exact discreet_writeUnder .write text
  | writeLine text => exact discreet_writeUnder .writeLine _
  | writeLines texts => exact discreet_writeLines texts
  | writeAll text => exact discreet_writeAll text
  | writeAllLines texts => exact discreet_writeAllLines texts
  | configure change => exact discreet_modify fun _ _ => rfl
  | close => exact discreet_close

end Session

end Bytemark
