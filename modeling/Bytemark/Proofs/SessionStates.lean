/-
Module: Bytemark.Proofs.SessionStates
Purpose: What a session says about its cursor is true after any run of operations.
Trusted boundary: none
Main exports: SessionCall, SessionCall.action, Session.Coherent, Session.Coherent.step,
  Session.Reachable, session_states
-/
import Bytemark.Proofs.SessionWriting

namespace Bytemark

open FileSystem Bytemark.Action

/-!
A session keeps the encoding and the signature flag beside its cursor, and every
operation that changes the one has to change the others.  The operations are
listed as calls; what is true of the three fields together is kept by each call,
and so by every run, whatever others do to the files between two calls.
-/

/-- The operations of a session. -/
inductive SessionCall where
  | openRead
  | openWrite (append : Bool) (encoding : Option Encoding)
  | openAppend (encoding : Option Encoding)
  | readLine
  | readAll
  | readLines
  | readAllWith (encoding : Encoding)
  | count (filter : Filter)
  | page (request : PageRequest) (filter : Filter)
  | pageJson (request : PageRequest) (filter : Filter)
  | tail (requested : Nat) (filter : Filter)
  | probe
  | write (text : String)
  | writeLine (text : String)
  | writeLines (texts : List String)
  | writeAll (text : String)
  | writeAllLines (texts : List String)
  | configure (change : TextSettings → TextSettings)
  | close

namespace SessionCall

/-- What a call answers if it succeeds. -/
def Answer : SessionCall → Type
  | readLine => Option String
  | readAll => String
  | readLines => List String
  | readAllWith _ => String
  | count _ => Nat
  | page _ _ => Page
  | pageJson _ _ => Json
  | tail _ _ => Tail
  | probe => Resolution
  | _ => Unit

/-- What the session is asked to do. -/
def action : (call : SessionCall) → Action call.Answer
  | openRead => Session.openRead
  | openWrite append encoding => Session.openWrite append encoding
  | openAppend encoding => Session.openAppend encoding
  | readLine => Session.readLine
  | readAll => Session.readAll
  | readLines => Session.readLines
  | readAllWith encoding => Session.readAllWith encoding
  | count filter => Session.count filter
  | page request filter => Session.page request filter
  | pageJson request filter => Session.pageJson request filter
  | tail requested filter => Session.tail requested filter
  | probe => Session.probe
  | write text => Session.write text
  | writeLine text => Session.writeLine text
  | writeLines texts => Session.writeLines texts
  | writeAll text => Session.writeAll text
  | writeAllLines texts => Session.writeAllLines texts
  | configure change => Session.configure change
  | close => Session.close

/-- The calls that open a cursor and leave it open. -/
def opens : SessionCall → Bool
  | openRead => true
  | openWrite _ _ => true
  | openAppend _ => true
  | _ => false

/-- The calls that deal with the whole file and close the session behind them. -/
def closes : SessionCall → Bool
  | readAll => true
  | readLines => true
  | readAllWith _ => true
  | writeAll _ => true
  | writeAllLines _ => true
  | close => true
  | _ => false

/-- The calls that look at the file with a cursor of their own. -/
def looks : SessionCall → Bool
  | count _ => true
  | page _ _ => true
  | pageJson _ _ => true
  | tail _ _ => true
  | probe => true
  | _ => false

/-- The operation that finds no cursor of its kind open, if the call is one. -/
def misses (session : Session) : SessionCall → Option Operation
  | readLine => if session.isReading then none else some .readLine
  | write _ => if session.isWriting then none else some .write
  | writeLine _ => if session.isWriting then none else some .writeLine
  | writeLines _ => if session.isWriting then none else some .writeLines
  | _ => none

end SessionCall

/-! ### Cursors keep their encoding -/

theorem ReadCursor.resolution_readLine (cursor : ReadCursor) (files : FileSystem) :
    (cursor.readLine files).2.resolution = cursor.resolution := by
  unfold readLine
  split <;> rfl

theorem WriteCursor.encoding_write (cursor : WriteCursor) (files : FileSystem) (octets : Octets) :
    (cursor.write files octets).2.1.encoding = cursor.encoding := by
  unfold write
  split <;> rfl

theorem WriteCursor.encoding_of_openFile {files after : FileSystem} {path : String}
    {encoding : Encoding} {append : Bool} {cursor : WriteCursor}
    (opened : openFile files path encoding append = (.ok cursor, after)) :
    cursor.encoding = encoding := by
  unfold openFile at opened
  split at opened
  · split at opened <;> cases opened
    rfl
  · split at opened
    · cases opened
    · dsimp only at opened
      split at opened <;> cases opened
      rfl

namespace Session

/-! ### What a session says about its cursor -/

/-- The encoding and the signature flag are those of the open cursor, and a closed
session has neither. -/
def Coherent (session : Session) : Prop :=
  match session.cursor with
  | .closed => session.encoding = none ∧ session.hasSignature = false
  | .reading cursor =>
      session.encoding = some cursor.resolution.encoding ∧
        session.hasSignature = cursor.resolution.hasSignature
  | .writing cursor => session.encoding = some cursor.encoding

theorem coherent_released (session : Session) : session.released.Coherent := ⟨rfl, rfl⟩

theorem coherent_reading (session : Session) (cursor : ReadCursor) :
    (session.reading cursor).Coherent := ⟨rfl, rfl⟩

theorem coherent_writing (session : Session) {cursor : WriteCursor} {encoding : Encoding}
    (same : cursor.encoding = encoding) (hasSignature : Bool) :
    (session.writing cursor encoding hasSignature).Coherent :=
  congrArg some same.symm

theorem Coherent.encoding_iff {session : Session} (coherent : session.Coherent) :
    session.encoding.isSome = true ↔ session.cursor ≠ .closed := by
  unfold Coherent at coherent
  split at coherent
  · rename_i closed
    rw [coherent.1, closed]
    simp
  · rename_i opened
    rw [coherent.1, opened]
    simp
  · rename_i opened
    rw [coherent, opened]
    simp

theorem Coherent.open_of_hasSignature {session : Session} (coherent : session.Coherent)
    (signed : session.hasSignature = true) : session.cursor ≠ .closed := by
  intro closed
  rw [Coherent, closed] at coherent
  cases signed.symm.trans coherent.2

/-! ### Calls that open -/

/-- What opening can do: it fails with the session closed, or it leaves a session
that agrees with its cursor. -/
theorem run_of_opens {call : SessionCall} (opens : call.opens = true) (session : Session)
    (files : FileSystem) :
    (∃ failure after, call.action.run session files = (.error failure, session.released, after)) ∨
      ∃ answer next after, call.action.run session files = (.ok answer, next, after) ∧
        next.Coherent ∧ next.released = session.released := by
  have writer (append : Bool) (encoding : Option Encoding) :
      (∃ failure after, (Session.openWrite append encoding).run session files =
          (.error failure, session.released, after)) ∨
        ∃ answer next after, (Session.openWrite append encoding).run session files =
            (.ok answer, next, after) ∧
          next.Coherent ∧ next.released = session.released := by
    rw [run_openWrite]
    cases session.existing files append encoding with
    | error cause => exact .inl ⟨_, _, rfl⟩
    | ok existing =>
        dsimp only
        cases opening : WriteCursor.openFile files session.path (session.chosen encoding existing)
            (append && session.exists? files) with
        | mk result after =>
            cases result with
            | error cause => exact .inl ⟨_, _, rfl⟩
            | ok cursor =>
                have same := WriteCursor.encoding_of_openFile opening
                exact .inr ⟨_, _, _, rfl, coherent_writing session same _, rfl⟩
  cases call with
  | openRead =>
      change (∃ failure after, Session.openRead.run session files = _) ∨
        ∃ answer next after, Session.openRead.run session files = _ ∧ _
      rw [run_openRead]
      cases (ReadCursor.openFile files session.path session.resolver).1 with
      | error cause => exact .inl ⟨_, _, rfl⟩
      | ok cursor => exact .inr ⟨_, _, _, rfl, coherent_reading session cursor, rfl⟩
  | openWrite append encoding => exact writer append encoding
  | openAppend encoding => exact writer true encoding
  | _ => cases opens

/-! ### Calls that close behind them -/

/-- An action that changes nothing of a session but its cursor and what the session
says about it. -/
def OnCursor {α : Type} (action : Action α) : Prop :=
  ∀ session files, (action.run session files).2.1.released = session.released

theorem OnCursor.bind {α β : Type} {first : Action α} {next : α → Action β}
    (before : OnCursor first) (behind : ∀ a, OnCursor (next a)) : OnCursor (first >>= next) := by
  intro session files
  have between := before session files
  rw [run_bind]
  generalize first.run session files = outcome at between ⊢
  rcases outcome with ⟨result, left, after⟩
  cases result with
  | error failure => exact between
  | ok a => exact (behind a left after).trans between

theorem onCursor_readRemaining : OnCursor readRemaining := by
  intro session files
  cases opened : session.cursor with
  | reading cursor =>
      rw [run_readRemaining opened]
      rfl
  | closed => simp [readRemaining, opened]
  | writing cursor => simp [readRemaining, opened]

theorem onCursor_visit {σ : Type} (see : σ → String → Visit σ) (state : σ) :
    OnCursor (visit see state) := by
  intro session files
  cases opened : session.cursor with
  | reading cursor =>
      rw [run_visit opened]
      rfl
  | closed => simp [visit, opened]
  | writing cursor => simp [visit, opened]

theorem onCursor_readRemainingLines : OnCursor readRemainingLines := by
  refine (onCursor_visit _ _).bind fun seen => ?_
  intro session files
  simp only [run_bind, run_mapError]
  cases seen.2 <;> rfl

theorem onCursor_writeUnder (operation : Operation) (text : String) :
    OnCursor (writeUnder operation text) := by
  intro session files
  cases opened : session.cursor with
  | writing cursor =>
      rw [run_writeUnder opened]
      split <;> rfl
  | closed => simp [writeUnder, opened]
  | reading cursor => simp [writeUnder, opened]

theorem onCursor_writeEach (texts : List String) : OnCursor (writeEach texts) := by
  induction texts with
  | nil => exact fun _ _ => rfl
  | cons text rest inductionHypothesis =>
      exact (onCursor_writeUnder _ _).bind fun _ => inductionHypothesis

theorem onCursor_writeLines (texts : List String) : OnCursor (writeLines texts) := by
  intro session files
  rw [writeLines, run_bind, run_session]
  dsimp only
  split
  · exact onCursor_writeEach texts session files
  · rfl

/-- What opens, works and closes has closed the session in every case. -/
theorem released_of_thenClose {α : Type} (call : SessionCall) (opens : call.opens = true)
    {work : Action α} (onCursor : OnCursor work) (session : Session) (files : FileSystem) :
    ((call.action >>= fun _ => thenClose work).run session files).2.1 = session.released := by
  rw [run_bind]
  rcases run_of_opens opens session files with
    ⟨failure, after, fails⟩ | ⟨answer, next, after, opened, -, same⟩
  · rw [fails]
  · rw [opened]
    dsimp only
    rw [run_thenClose]
    exact (onCursor next after).trans same

theorem released_of_closes {call : SessionCall} (closes : call.closes = true) (session : Session)
    (files : FileSystem) : (call.action.run session files).2.1 = session.released := by
  have reader {α : Type} {work : Action α} (onCursor : OnCursor work) :
      ((Session.openRead >>= fun _ => thenClose work).run session files).2.1 = session.released :=
    released_of_thenClose .openRead rfl onCursor session files
  have writer {α : Type} {work : Action α} (onCursor : OnCursor work) :
      ((openWrite false none >>= fun _ => thenClose work).run session files).2.1 =
        session.released :=
    released_of_thenClose (.openWrite false none) rfl onCursor session files
  cases call with
  | readAll => exact reader onCursor_readRemaining
  | readLines => exact reader onCursor_readRemainingLines
  | readAllWith encoding =>
      exact congrArg (fun outcome => outcome.2.1) (run_readAllWith encoding session files)
  | writeAll text => exact writer (onCursor_writeUnder .write text)
  | writeAllLines texts => exact writer (onCursor_writeLines texts)
  | close => exact congrArg (fun outcome => outcome.2.1) (run_close session files)
  | _ => cases closes

/-! ### Calls that need a cursor -/

theorem run_readLine_of_missing {session : Session} (missing : session.isReading = false)
    (files : FileSystem) :
    Session.readLine.run session files =
      (.error (.notOpen .readLine session.path), session, files) := by
  cases opened : session.cursor with
  | reading cursor => simp [isReading, opened] at missing
  | closed => simp [Session.readLine, opened]
  | writing cursor => simp [Session.readLine, opened]

theorem run_writeUnder_of_missing {session : Session} (missing : session.isWriting = false)
    (operation : Operation) (text : String) (files : FileSystem) :
    (writeUnder operation text).run session files =
      (.error (.notOpen operation session.path), session, files) := by
  cases opened : session.cursor with
  | writing cursor => simp [isWriting, opened] at missing
  | closed => simp [writeUnder, opened]
  | reading cursor => simp [writeUnder, opened]

/-- A call that finds no cursor of its kind fails under its own name, and nothing
else happens. -/
theorem run_of_misses {call : SessionCall} {session : Session} {operation : Operation}
    (misses : call.misses session = some operation) (files : FileSystem) :
    call.action.run session files =
      (.error (.notOpen operation session.path), session, files) := by
  have missing {found : Bool} {name : Operation}
      (misses : (if found then none else some name) = some operation) :
      found = false ∧ name = operation := by
    cases found with
    | true => cases misses
    | false => exact ⟨rfl, Option.some.inj misses⟩
  cases call with
  | readLine =>
      obtain ⟨closed, rfl⟩ := missing misses
      exact run_readLine_of_missing closed files
  | write text =>
      obtain ⟨closed, rfl⟩ := missing misses
      exact run_writeUnder_of_missing closed .write text files
  | writeLine text =>
      obtain ⟨closed, rfl⟩ := missing misses
      exact run_writeUnder_of_missing closed .writeLine _ files
  | writeLines texts =>
      obtain ⟨closed, rfl⟩ := missing misses
      change (Session.writeLines texts).run session files = _
      rw [Session.writeLines, run_bind, run_session]
      dsimp only
      rw [closed]
      rfl
  | _ => cases misses

/-! ### Calls that only look -/

/-- A call with a cursor of its own leaves the session and the files as they are. -/
theorem left_of_looks {call : SessionCall} (looks : call.looks = true) (session : Session)
    (files : FileSystem) : (call.action.run session files).2 = (session, files) := by
  cases call with
  | count filter =>
      change ((Session.count filter).run session files).2 = _
      rw [Session.count, run_scanning]
  | page request filter =>
      change ((Session.page request filter).run session files).2 = _
      rw [Session.page, run_scanning]
  | pageJson request filter =>
      change ((Session.pageJson request filter).run session files).2 = _
      rw [Session.pageJson, run_bind, Session.page, run_scanning]
      cases (session.scanner.page files request filter).1 <;> rfl
  | tail requested filter =>
      change ((Session.tail requested filter).run session files).2 = _
      rw [Session.tail, run_scanning]
  | probe =>
      change (Session.probe.run session files).2 = _
      rw [run_probe]
  | _ => cases looks

/-! ### Every call keeps session and cursor together -/

theorem Coherent.readLine {session : Session} (coherent : session.Coherent) (files : FileSystem) :
    (Session.readLine.run session files).2.1.Coherent := by
  cases opened : session.cursor with
  | reading cursor =>
      rw [run_readLine opened, Coherent]
      rw [Coherent, opened] at coherent
      dsimp only
      rw [cursor.resolution_readLine files]
      exact coherent
  | closed =>
      rw [run_readLine_of_missing (by rw [isReading, opened])]
      exact coherent
  | writing cursor =>
      rw [run_readLine_of_missing (by rw [isReading, opened])]
      exact coherent

theorem Coherent.writeUnder {session : Session} (coherent : session.Coherent)
    (operation : Operation) (text : String) (files : FileSystem) :
    ((writeUnder operation text).run session files).2.1.Coherent := by
  cases opened : session.cursor with
  | writing cursor =>
      rw [run_writeUnder opened]
      cases cursor.encoding.encode text with
      | error refusal => exact coherent
      | ok octets =>
          rw [Coherent, opened] at coherent
          rw [Coherent]
          dsimp only
          rw [cursor.encoding_write files octets]
          exact coherent
  | closed =>
      rw [run_writeUnder_of_missing (by rw [isWriting, opened])]
      exact coherent
  | reading cursor =>
      rw [run_writeUnder_of_missing (by rw [isWriting, opened])]
      exact coherent

theorem Coherent.writeEach {session : Session} (coherent : session.Coherent)
    (texts : List String) (files : FileSystem) :
    ((writeEach texts).run session files).2.1.Coherent := by
  induction texts generalizing session files with
  | nil => exact coherent
  | cons text rest inductionHypothesis =>
      have line := coherent.writeUnder .writeLine (text ++ Terminator.native.text) files
      rw [Session.writeEach, run_bind]
      change ((Session.writeLine text).run session files).2.1.Coherent at line
      generalize (Session.writeLine text).run session files = outcome at line ⊢
      rcases outcome with ⟨result, between, after⟩
      cases result with
      | error failure => exact line
      | ok _ => exact inductionHypothesis line after

theorem Coherent.writeLines {session : Session} (coherent : session.Coherent)
    (texts : List String) (files : FileSystem) :
    ((Session.writeLines texts).run session files).2.1.Coherent := by
  rw [Session.writeLines, run_bind, run_session]
  dsimp only
  split
  · exact coherent.writeEach texts files
  · exact coherent

/-- One call leaves a session that agrees with its cursor. -/
theorem Coherent.step {session : Session} (coherent : session.Coherent) (call : SessionCall)
    (files : FileSystem) : (call.action.run session files).2.1.Coherent := by
  have opening (opens : call.opens = true) : (call.action.run session files).2.1.Coherent := by
    rcases run_of_opens opens session files with
      ⟨failure, after, fails⟩ | ⟨answer, next, after, opened, agrees, -⟩
    · rw [fails]
      exact coherent_released session
    · rw [opened]
      exact agrees
  have closing (closes : call.closes = true) : (call.action.run session files).2.1.Coherent := by
    rw [released_of_closes closes]
    exact coherent_released session
  have looking (looks : call.looks = true) : (call.action.run session files).2.1.Coherent := by
    rw [left_of_looks looks]
    exact coherent
  cases call with
  | openRead => exact opening rfl
  | openWrite append encoding => exact opening rfl
  | openAppend encoding => exact opening rfl
  | readLine => exact coherent.readLine files
  | readAll => exact closing rfl
  | readLines => exact closing rfl
  | readAllWith encoding => exact closing rfl
  | count filter => exact looking rfl
  | page request filter => exact looking rfl
  | pageJson request filter => exact looking rfl
  | tail requested filter => exact looking rfl
  | probe => exact looking rfl
  | write text => exact coherent.writeUnder .write text files
  | writeLine text => exact coherent.writeUnder .writeLine _ files
  | writeLines texts => exact coherent.writeLines texts files
  | writeAll text => exact closing rfl
  | writeAllLines texts => exact closing rfl
  | configure change => exact coherent
  | close => exact closing rfl

/-! ### Runs -/

/-- The sessions that a run of calls can lead to, and the files beside them.  Others
may do anything to the files between two calls. -/
inductive Reachable : Session → FileSystem → Prop where
  | new (path : String) (settings : TextSettings) (logger : Logger) (files : FileSystem) :
      Reachable (Session.new path settings logger) files
  | call {session : Session} {files : FileSystem} (before : Reachable session files)
      (call : SessionCall) :
      Reachable (call.action.run session files).2.1 (call.action.run session files).2.2
  | others {session : Session} {files : FileSystem} (before : Reachable session files)
      (changed : FileSystem) : Reachable session changed

theorem Reachable.coherent {session : Session} {files : FileSystem}
    (reachable : Reachable session files) : session.Coherent := by
  induction reachable with
  | new path settings logger files => exact ⟨rfl, rfl⟩
  | call before call inductionHypothesis => exact inductionHypothesis.step call _
  | others before changed inductionHypothesis => exact inductionHypothesis

end Session

/-- After any run, a session has an encoding exactly if a cursor is open, a signature
flag only if one is, and never a reader and a writer.  A call that fails to open
leaves the session closed, whatever was open before; the calls that deal with the
whole file leave it closed in every case; and a call that needs a cursor that is not
open fails under its own name and changes nothing. -/
theorem session_states {session : Session} {files : FileSystem}
    (reachable : session.Reachable files) :
    (session.encoding.isSome = true ↔ session.cursor ≠ .closed) ∧
      (session.hasSignature = true → session.cursor ≠ .closed) ∧
      ¬ (session.isReading = true ∧ session.isWriting = true) ∧
      ∀ call : SessionCall,
        (call.opens = true → ∀ failure, (call.action.run session files).1 = .error failure →
          (call.action.run session files).2.1 = session.released) ∧
        (call.closes = true → (call.action.run session files).2.1 = session.released) ∧
        ∀ operation, call.misses session = some operation →
          call.action.run session files =
            (.error (.notOpen operation session.path), session, files) := by
  have coherent := reachable.coherent
  refine ⟨coherent.encoding_iff, coherent.open_of_hasSignature, ?_, ?_⟩
  · rintro ⟨reads, writes⟩
    unfold Session.isReading at reads
    unfold Session.isWriting at writes
    cases opened : session.cursor <;> simp [opened] at reads writes
  · intro call
    refine ⟨?_, fun closes => Session.released_of_closes closes session files,
      fun operation misses => Session.run_of_misses misses files⟩
    intro opens failure fails
    rcases Session.run_of_opens opens session files with
      ⟨cause, after, failed⟩ | ⟨answer, next, after, opened, -, -⟩
    · rw [failed]
    · rw [opened] at fails
      cases fails

/-- A writer is open when the file is removed: no line can be read, and an attempt to
open a reader closes the writer. -/
theorem session_states_removed :
    let removed := FileSystem.empty ["home"]
    let writer := (SessionCall.openAppend none).action.run (Session.new "a" default .silent)
      (FileSystem.holding "a" [0x61])
    let session := writer.2.1
    session.Reachable removed ∧ session.encoding = some .utf8 ∧ session.cursor ≠ .closed ∧
      SessionCall.readLine.action.run session removed =
        (.error (.notOpen .readLine "a"), session, removed) ∧
      (SessionCall.openRead.action.run session removed).1 =
        .error (.io .openForRead "a" .notFound) ∧
      (SessionCall.openRead.action.run session removed).2.1 = Session.new "a" default .silent := by
  intro removed writer session
  have reachable : session.Reachable removed :=
    .others (.call (.new "a" default .silent (FileSystem.holding "a" [0x61])) _) removed
  have utf8 : session.encoding = some .utf8 := by decide +kernel
  have fails : (Session.openRead.run session removed).1 =
      .error (.io .openForRead "a" .notFound) := by decide +kernel
  have misses : SessionCall.readLine.misses session = some .readLine := by decide +kernel
  have path : session.path = "a" := by decide +kernel
  have released : session.released = Session.new "a" default .silent := by decide +kernel
  obtain ⟨known, -, -, calls⟩ := session_states reachable
  have opened : session.cursor ≠ .closed := known.mp (by rw [utf8]; rfl)
  obtain ⟨-, -, missing⟩ := calls .readLine
  obtain ⟨failed, -, -⟩ := calls .openRead
  exact ⟨reachable, utf8, opened, path ▸ missing .readLine misses, fails,
    (failed rfl _ fails).trans released⟩

end Bytemark
