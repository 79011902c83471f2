/-
Module: Bytemark.Proofs.AcceptedWrites
Purpose: The file of a writing session is what it has accepted, call by call.
Trusted boundary: none
Main exports: Session.writings, Session.puts_writings, Session.Began,
  Session.began_of_openWrite, accepted_writes
-/
import Bytemark.Proofs.WritingCalls

namespace Bytemark

open FileSystem

/-!
Between two calls a writing session stands behind everything that it has
written.  So a run of calls is one long write: its octets are those of the texts
that were taken, and neither the answers nor the count of octets depend on
anything else.
-/

namespace WriteMode

/-- The handle stands behind all that was written. -/
def AtEnd : WriteMode → Octets → Prop
  | .append, _ => True
  | .overwrite offset, content => offset = content.length

theorem AtEnd.within {mode : WriteMode} {content : Octets} (atEnd : mode.AtEnd content) :
    mode.Within content := by
  cases mode with
  | append => trivial
  | overwrite offset => exact Nat.le_of_eq atEnd

theorem AtEnd.put {mode : WriteMode} {content : Octets} (atEnd : mode.AtEnd content)
    (octets : Octets) : mode.put content octets = content ++ octets := by
  cases mode with
  | append => rfl
  | overwrite offset =>
      cases atEnd
      rw [WriteMode.put, List.take_length, List.drop_of_length_le (Nat.le_add_right _ _),
        List.append_nil]

end WriteMode

namespace Session

open Bytemark.Action

/-! ### Runs of calls -/

/-- Makes one call behind the other, whatever they answer. -/
def writings : List Writing → Action (List (Except TextError Unit))
  | [] => Action.answer []
  | call :: rest => do
      let result ← call.action.attempt
      let results ← writings rest
      Action.answer (result :: results)

section

variable {session : Session} {files : FileSystem} {encoding : Encoding} {id : FileId}
  {mode : WriteMode}

theorem Puts.attempt {α : Type} {action : Action α} {answer : Except TextError α} {octets : Octets}
    (puts : Puts session files id mode action answer octets) :
    Puts session files id mode action.attempt (.ok answer) octets := by
  obtain ⟨after, goes, wrote⟩ := puts
  exact ⟨after, by rw [run_attempt, goes], wrote⟩

theorem Puts.map {α β : Type} {action : Action α} {a : α} {octets : Octets}
    (puts : Puts session files id mode action (.ok a) octets) (change : α → β) :
    Puts session files id mode (action >>= fun a => Action.answer (change a)) (.ok (change a))
      octets := by
  obtain ⟨after, goes, wrote⟩ := puts
  refine ⟨after, ?_, wrote⟩
  rw [run_bind, goes]
  rfl

/-- The octets of a run are those of the texts that its calls have taken. -/
theorem puts_writings (writes : session.Writes encoding id mode)
    (present : id < files.contents.length) (within : mode.Within (files.content id))
    (calls : List Writing) :
    Puts session files id mode (writings calls)
      (.ok (calls.map (Writing.answer encoding session.path)))
      (encoding.octetsOf (calls.flatMap (Writing.taken encoding))) := by
  induction calls generalizing session files mode with
  | nil => exact .nothing rfl
  | cons call rest inductionHypothesis =>
      rw [List.flatMap_cons, Encoding.octetsOf_append, List.map_cons]
      refine (puts_writing writes present within call).attempt.bind within
        fun between names within' => ?_
      have behind := inductionHypothesis (writes.advanced _) (names.count ▸ present) within'
      rw [path_advanced] at behind
      exact behind.map (call.answer encoding session.path :: ·)

end

/-- A call leaves the session and the files to the calls behind it. -/
theorem left_writings_cons (call : Writing) (rest : List Writing) (session : Session)
    (files : FileSystem) :
    ((writings (call :: rest)).run session files).2 =
      ((writings rest).run (call.action.run session files).2.1
        (call.action.run session files).2.2).2 := by
  simp only [writings, run_bind, run_attempt]
  cases (writings rest).run (call.action.run session files).2.1
      (call.action.run session files).2.2 with
  | mk result left => cases result <;> rfl

theorem left_writings_append (first second : List Writing) (session : Session)
    (files : FileSystem) :
    ((writings (first ++ second)).run session files).2 =
      ((writings second).run ((writings first).run session files).2.1
        ((writings first).run session files).2.2).2 := by
  induction first generalizing session files with
  | nil => rfl
  | cons call rest inductionHypothesis =>
      rw [List.cons_append, left_writings_cons, inductionHypothesis, left_writings_cons]

/-- A text or a line that is refused changes nothing. -/
theorem run_writing_refused {session : Session} {encoding : Encoding} {id : FileId}
    {mode : WriteMode} (writes : session.Writes encoding id mode) {writing : Writing}
    (single : ∃ whole, writing = .text whole ∨ writing = .line whole) {failure : TextError}
    (refused : writing.answer encoding session.path = .error failure) (files : FileSystem) :
    writing.action.run session files = (.error failure, session, files) := by
  have refuses (operation : Operation) (text : String)
      (lacks : encoding.verdict operation session.path [text] = .error failure) :
      (writeUnder operation text).run session files = (.error failure, session, files) := by
    rw [Encoding.verdict] at lacks
    cases encoded : encoding.encode text with
    | ok octets =>
        rw [encoded] at lacks
        cases lacks
    | error refusal =>
        rw [encoded] at lacks
        cases lacks
        exact run_writeUnder_refused writes operation encoded files
  rcases single with ⟨whole, rfl | rfl⟩
  · exact refuses .write whole refused
  · exact refuses .writeLine (endedLine whole) refused

/-! ### The count of octets -/

/-- The octets that the open writer has counted. -/
def octetsWritten (session : Session) : Nat :=
  match session.cursor with
  | .writing cursor => cursor.octetsWritten
  | _ => 0

/-- What a writer says when it is closed. -/
def closingMessage (path : String) (count : Nat) : String :=
  s!"closing '{path}' after {count} bytes"

theorem octetsWritten_advanced {session : Session} {encoding : Encoding} {id : FileId}
    {mode : WriteMode} (writes : session.Writes encoding id mode) (octets : Octets) :
    (session.advanced octets).octetsWritten = session.octetsWritten + octets.length := by
  rcases writes with ⟨cursor, opened, -⟩
  simp only [octetsWritten, advanced, opened]
  rfl

@[simp] theorem logger_advanced (session : Session) (octets : Octets) :
    (session.advanced octets).logger = session.logger := by
  unfold advanced
  split <;> rfl

theorem log_close {session : Session} {encoding : Encoding} {id : FileId} {mode : WriteMode}
    (writes : session.Writes encoding id mode) (files : FileSystem) :
    (close session files).log =
      session.logger.record .debug (closingMessage session.path session.octetsWritten) := by
  rcases writes with ⟨cursor, opened, -⟩
  simp [close, bind, Action.andThen, Action.session, opened, Action.tell, Action.modify,
    octetsWritten, closingMessage]

/-! ### The session that was opened -/

/-- A session that has just begun to write: the file holds what it kept, or else
the signature of the encoding, and only a signature has been counted. -/
structure Began (session opened : Session) (files : FileSystem) (kept : Option Octets)
    (used : Encoding) (id : FileId) (mode : WriteMode) : Prop where
  writes : opened.Writes used id mode
  path : opened.path = session.path
  logger : opened.logger = session.logger
  wellFormed : files.WellFormed
  found : ∃ location, files.find session.path = .ok (location, .file id)
  content : files.content id = kept.getD used.signatureOctets
  atEnd : mode.AtEnd (files.content id)
  counted : opened.octetsWritten = kept.elim used.signatureOctets.length fun _ => 0

/-- A regular file is kept if it is appended to, and begun anew otherwise. -/
theorem began_of_openWrite {session opened : Session} {files between : FileSystem} {append : Bool}
    {encoding : Option Encoding} (wellFormed : files.WellFormed)
    (regular : files.Regular session.path)
    (opens : (openWrite append encoding).run session files = (.ok (), opened, between)) :
    ∃ used id mode, Began session opened between
      (if append then files.octets? session.path else none) used id mode := by
  cases appending : append && session.exists? files with
  | true =>
      obtain ⟨rfl, present⟩ := Bool.and_eq_true_iff.mp appending
      obtain ⟨location, id, found⟩ := regular.find_of_exists present
      rw [if_pos rfl, octets_of_file found]
      cases (run_openAppend_eq found encoding).symm.trans opens
      exact ⟨_, id, .append, ⟨_, rfl, rfl, rfl, rfl⟩, rfl, rfl, wellFormed, ⟨location, found⟩,
        rfl, trivial, rfl⟩
  | false =>
      have nothing : (if append then files.octets? session.path else none) = none := by
        cases append with
        | false => rfl
        | true =>
            rw [Bool.true_and] at appending
            exact octets_of_not_exists appending
      rcases run_openWrite_begun wellFormed regular appending encoding with
        ⟨failure, fails⟩ | ⟨location, id, used, after, begins, found, kept, signed⟩
      · cases fails.symm.trans opens
      · cases begins.symm.trans opens
        rw [nothing]
        refine ⟨used, id, _, writes_begun session id used, rfl, rfl, kept, ⟨location, found⟩,
          signed, ?_, rfl⟩
        rw [signed]
        rfl

end Session

/-- The file of a session that was opened for writing is what it held before, if it
is appended to, or else the signature of the encoding that was chosen, and behind
that the texts that the calls so far have taken: each text that has octets, each
line with the terminator behind it, and of several lines those in front of the
first that has none.  The session counts the octets of the texts and those of the
signature that it wrote, and says so when it is closed.  A text or a line that is
refused changes nothing, neither at once nor for the calls behind it. -/
theorem accepted_writes {session opened : Session} {files between : FileSystem} {append : Bool}
    {encoding : Option Encoding} (wellFormed : files.WellFormed)
    (regular : files.Regular session.path)
    (opens : (Session.openWrite append encoding).run session files = (.ok (), opened, between)) :
    let kept := if append then files.octets? session.path else none
    ∃ used, opened.encoding = some used ∧ ∀ calls : List Writing,
      let left := (Session.writings calls).run opened between
      let accepted := used.octetsOf (calls.flatMap (Writing.taken used))
      let signed := kept.elim used.signatureOctets.length fun _ => 0
      left.1 = .ok (calls.map (Writing.answer used session.path)) ∧
      left.2.1 = opened.advanced accepted ∧
      left.2.2.octets? session.path = some (kept.getD used.signatureOctets ++ accepted) ∧
      (Session.close left.2.1 left.2.2).log =
        session.logger.record .debug
          (Session.closingMessage session.path (signed + accepted.length)) ∧
      ∀ call failure, call.answer used session.path = .error failure →
        (∃ whole, call = .text whole ∨ call = .line whole) →
        call.action.run left.2.1 left.2.2 = (.error failure, left.2) ∧
        ∀ rest, ((Session.writings (calls ++ call :: rest)).run opened between).2 =
          ((Session.writings (calls ++ rest)).run opened between).2 := by
  intro kept
  obtain ⟨used, id, mode, began⟩ := Session.began_of_openWrite wellFormed regular opens
  obtain ⟨location, found⟩ := began.found
  have present := lt_of_find began.wellFormed found
  refine ⟨used, began.writes.encoding_eq, ?_⟩
  intro calls left accepted signed
  obtain ⟨after, goes, content, names⟩ :=
    Session.puts_writings began.writes present began.atEnd.within calls
  have outcome : left = (.ok (calls.map (Writing.answer used session.path)),
      opened.advanced accepted, after) := began.path ▸ goes
  have writes := began.writes.advanced accepted
  have path : (opened.advanced accepted).path = session.path :=
    (opened.path_advanced accepted).trans began.path
  rw [outcome]
  refine ⟨rfl, rfl, ?_, ?_, ?_⟩
  · dsimp only
    rw [octets_of_file ((names.find session.path).trans found), content, began.atEnd.put,
      began.content]
  · rw [Session.log_close writes, path, Session.logger_advanced, began.logger,
      Session.octetsWritten_advanced began.writes, began.counted]
  · intro call failure refused single
    have stays := Session.run_writing_refused writes single (path.symm ▸ refused) after
    refine ⟨stays, ?_⟩
    intro rest
    have state : ((Session.writings calls).run opened between).2 =
        (opened.advanced accepted, after) := congrArg Prod.snd outcome
    rw [Session.left_writings_append, Session.left_writings_append, state,
      Session.left_writings_cons, stays]

/-- ISO-8859-1 has no euro sign: the text is refused, and of the lines only the first
is written. -/
theorem accepted_writes_euro :
    let files := FileSystem.empty ["home"]
    let session := Session.new "a" default (.tracing .debug)
    let opens := (Session.openWrite false (some .latin1)).run session files
    let calls : List Writing := [.line "ä", .text "b€", .lines ["c", "€", "d"], .text "e"]
    files.WellFormed ∧ files.Regular "a" ∧ opens = (.ok (), opens.2.1, opens.2.2) ∧
      let left := (Session.writings calls).run opens.2.1 opens.2.2
      left.1 = .ok [.ok (), .error (.unsupportedEncoding .write "a" ⟨'€', .latin1⟩),
        .error (.unsupportedEncoding .writeLine "a" ⟨'€', .latin1⟩), .ok ()] ∧
      left.2.2.octets? "a" = some [0xE4, 0x0A, 0x63, 0x0A, 0x65] ∧
      (Session.close left.2.1 left.2.2).log = [⟨.debug, "closing 'a' after 5 bytes"⟩] := by
  intro files session opens calls
  have wellFormed : files.WellFormed := wellFormed_empty ["home"]
  have regular : files.Regular session.path := by
    intro location node found
    have missing : files.find "a" = .error .notFound := by decide +kernel
    cases missing.symm.trans found
  have begins : opens = (.ok (), opens.2.1, opens.2.2) := by decide +kernel
  obtain ⟨used, known, writes⟩ := accepted_writes wellFormed regular begins
  have latin : opens.2.1.encoding = some .latin1 := by decide +kernel
  cases latin.symm.trans known
  obtain ⟨answers, -, content, counted, -⟩ := writes calls
  refine ⟨wellFormed, regular, begins, answers.trans ?_, content.trans ?_, counted.trans ?_⟩
  · rfl
  · decide +kernel
  · decide +kernel

end Bytemark
