/-
Module: Bytemark.Proofs.WritingCalls
Purpose: The octets that one writing call of a session leaves in its file.
Trusted boundary: none
Main exports: Writing, Writing.answer, Writing.taken, Writing.octets, Session.Puts,
  Session.puts_writing, Session.Wrote, Session.run_writing_wrote, Session.run_writing_of_closed
-/
import Bytemark.Proofs.SessionWriting

namespace Bytemark

open FileSystem

/-!
A session writes a text, a line or several lines.  What the call has written is
told by its answer: a text or a line was accepted as a whole or not at all, and
of several lines those in front of the first that was refused.
-/

/-- The calls by which a session writes. -/
inductive Writing where
  | text (text : String)
  | line (text : String)
  | lines (texts : List String)
deriving Repr, DecidableEq

/-- A text and the terminator that a written line gets. -/
def endedLine (text : String) : String := text ++ Terminator.native.text

namespace Encoding

/-- Whether the encoding has octets for the text. -/
def encodes (encoding : Encoding) (text : String) : Bool := (encoding.encode text).isOk

/-- The octets of texts, one behind the other. -/
def octetsOf (encoding : Encoding) (texts : List String) : Octets :=
  texts.flatMap fun text => (encoding.encode text).toOption.getD []

/-- The answer to texts that are written one behind the other: the refusal of the
first that has no octets, if there is one. -/
def verdict (encoding : Encoding) (operation : Operation) (path : String) :
    List String → Except TextError Unit
  | [] => .ok ()
  | text :: rest =>
      match encoding.encode text with
      | .ok _ => encoding.verdict operation path rest
      | .error refusal => .error (.unsupportedEncoding operation path refusal)

variable {encoding : Encoding} {text : String}

theorem encodes_of_ok {octets : Octets} (encoded : encoding.encode text = .ok octets) :
    encoding.encodes text = true := by
  rw [encodes, encoded]
  rfl

theorem encodes_of_error {refusal : Unencodable} (lacks : encoding.encode text = .error refusal) :
    encoding.encodes text = false := by
  rw [encodes, lacks]
  rfl

theorem octetsOf_cons {octets : Octets} (encoded : encoding.encode text = .ok octets)
    (rest : List String) : encoding.octetsOf (text :: rest) = octets ++ encoding.octetsOf rest := by
  rw [octetsOf, List.flatMap_cons, encoded]
  rfl

theorem octetsOf_append (encoding : Encoding) (first second : List String) :
    encoding.octetsOf (first ++ second) = encoding.octetsOf first ++ encoding.octetsOf second :=
  List.flatMap_append

/-- A verdict is a success that took every text, or a refusal. -/
theorem verdict_cases (encoding : Encoding) (operation : Operation) (path : String)
    (texts : List String) :
    (encoding.verdict operation path texts = .ok () ∧ texts.takeWhile encoding.encodes = texts) ∨
      ∃ refusal, encoding.verdict operation path texts =
        .error (.unsupportedEncoding operation path refusal) := by
  induction texts with
  | nil => exact .inl ⟨rfl, rfl⟩
  | cons text rest inductionHypothesis =>
      rw [verdict]
      cases encoded : encoding.encode text with
      | error refusal => exact .inr ⟨refusal, rfl⟩
      | ok octets =>
          rcases inductionHypothesis with ⟨done, all⟩ | refused
          · refine .inl ⟨done, ?_⟩
            rw [List.takeWhile_cons_of_pos (encodes_of_ok encoded), all]
          · exact .inr refused

end Encoding

namespace Writing

/-- What the session is asked to do. -/
def action : Writing → Action Unit
  | .text whole => Session.write whole
  | .line whole => Session.writeLine whole
  | .lines texts => Session.writeLines texts

/-- The operation that a refusal names. -/
def operation : Writing → Operation
  | .text _ => .write
  | .line _ => .writeLine
  | .lines _ => .writeLine

/-- The texts that are encoded one by one. -/
def texts : Writing → List String
  | .text whole => [whole]
  | .line whole => [endedLine whole]
  | .lines texts => texts.map endedLine

/-- The texts in front of the first that has no octets. -/
def taken (encoding : Encoding) (writing : Writing) : List String :=
  writing.texts.takeWhile encoding.encodes

/-- What an open session answers. -/
def answer (encoding : Encoding) (path : String) (writing : Writing) : Except TextError Unit :=
  encoding.verdict writing.operation path writing.texts

/-- The texts that a call with this answer has written: the whole text if it
succeeded, and of several lines those before the first that was refused. -/
def accepted (encoding : Encoding) : Writing → Except TextError Unit → List String
  | .text whole, .ok () => [whole]
  | .line whole, .ok () => [endedLine whole]
  | .lines texts, .ok () => texts.map endedLine
  | .lines texts, .error (.unsupportedEncoding _ _ _) =>
      (texts.map endedLine).takeWhile encoding.encodes
  | _, .error _ => []

/-- Of a single text that is refused nothing is taken. -/
theorem taken_of_refused {encoding : Encoding} {operation : Operation} {path text : String}
    {failure : TextError} (refused : encoding.verdict operation path [text] = .error failure) :
    [text].takeWhile encoding.encodes = [] := by
  rw [Encoding.verdict] at refused
  cases encoded : encoding.encode text with
  | ok octets =>
      rw [encoded] at refused
      cases refused
  | error refusal =>
      rw [List.takeWhile_cons_of_neg (by rw [Encoding.encodes_of_error encoded]; decide)]

/-- The answer tells which texts were taken. -/
theorem accepted_answer (encoding : Encoding) (path : String) (writing : Writing) :
    writing.accepted encoding (writing.answer encoding path) = writing.taken encoding := by
  unfold answer taken
  rcases encoding.verdict_cases writing.operation path writing.texts with
    ⟨done, all⟩ | ⟨refusal, refused⟩
  · rw [done, all]
    cases writing <;> rfl
  · rw [refused]
    cases writing with
    | lines texts => rfl
    | text whole => exact (taken_of_refused refused).symm
    | line whole => exact (taken_of_refused refused).symm

/-- The octets of the texts that were accepted. -/
def octets (writing : Writing) (session : Session) (result : Except TextError Unit) : Octets :=
  match session.encoding with
  | some encoding => encoding.octetsOf (writing.accepted encoding result)
  | none => []

end Writing

namespace WriteMode

theorem Within.advance {mode : WriteMode} {content : Octets} (within : mode.Within content)
    (octets : Octets) : (mode.advance octets.length).Within (mode.put content octets) := by
  cases mode with
  | append => trivial
  | overwrite offset =>
      have inside : offset ≤ content.length := within
      simp only [WriteMode.advance, Within, put, List.length_append, List.length_take,
        List.length_drop]
      omega

/-- Octets may be joined before they are written. -/
theorem put_put {mode : WriteMode} {content : Octets} (within : mode.Within content)
    (first second : Octets) :
    (mode.advance first.length).put (mode.put content first) second =
      mode.put content (first ++ second) := by
  cases mode with
  | append => exact List.append_assoc content first second
  | overwrite offset =>
      have inside : offset ≤ content.length := within
      have front : (content.take offset ++ first).length = offset + first.length := by
        rw [List.length_append, List.length_take_of_le inside]
      simp only [WriteMode.advance, put]
      rw [List.take_left' front, List.drop_append, front, List.drop_of_length_le (by omega),
        Nat.add_sub_cancel_left, List.drop_drop, List.length_append, List.nil_append]
      simp only [List.append_assoc, Nat.add_assoc]

end WriteMode

namespace Session

open Bytemark.Action

section

variable {α β : Type} {session : Session} {files : FileSystem} {encoding : Encoding} {id : FileId}
  {mode : WriteMode}

/-- In a session that writes to a file the action answers so and has written these
octets, and it has changed nothing else. -/
def Puts (session : Session) (files : FileSystem) (id : FileId) (mode : WriteMode)
    (action : Action α) (answer : Except TextError α) (octets : Octets) : Prop :=
  ∃ after, action.run session files = (answer, session.advanced octets, after) ∧
    after.content id = mode.put (files.content id) octets ∧ SameNames files after

theorem Puts.nothing {action : Action α} {answer : Except TextError α}
    (answers : action.run session files = (answer, session, files)) :
    Puts session files id mode action answer [] := by
  refine ⟨files, ?_, (mode.put_nil _).symm, .refl files⟩
  rw [advanced_nil]
  exact answers

/-- Octets that are written by two actions stand one behind the other. -/
theorem Puts.bind {first : Action α} {next : α → Action β} {a : α} {answer : Except TextError β}
    {octets following : Octets} (within : mode.Within (files.content id))
    (before : Puts session files id mode first (.ok a) octets)
    (behind : ∀ between, SameNames files between →
      (mode.advance octets.length).Within (between.content id) →
      Puts (session.advanced octets) between id (mode.advance octets.length) (next a) answer
        following) :
    Puts session files id mode (first >>= next) answer (octets ++ following) := by
  obtain ⟨between, writes, content, names⟩ := before
  have within' := within.advance octets
  rw [← content] at within'
  obtain ⟨after, goes, content', names'⟩ := behind between names within'
  refine ⟨after, ?_, ?_, names.trans names'⟩
  · rw [run_bind, writes]
    dsimp only
    rw [goes, advanced_advanced]
  · rw [content', content, WriteMode.put_put within]

/-- A text is written in full, or refused and nothing happens. -/
theorem puts_writeUnder (writes : session.Writes encoding id mode)
    (present : id < files.contents.length) (within : mode.Within (files.content id))
    (operation : Operation) (text : String) :
    Puts session files id mode (writeUnder operation text)
      (encoding.verdict operation session.path [text])
      (encoding.octetsOf ([text].takeWhile encoding.encodes)) := by
  cases encoded : encoding.encode text with
  | error refusal =>
      rw [List.takeWhile_cons_of_neg (by rw [Encoding.encodes_of_error encoded]; decide),
        Encoding.verdict, encoded]
      exact .nothing (run_writeUnder_refused writes operation encoded files)
  | ok octets =>
      have single : encoding.octetsOf [text] = octets :=
        (Encoding.octetsOf_cons encoded []).trans (List.append_nil octets)
      rw [List.takeWhile_cons_of_pos (Encoding.encodes_of_ok encoded), List.takeWhile_nil, single,
        Encoding.verdict, encoded]
      exact run_writeUnder_taken writes present within operation encoded

/-- Lines are written up to the first that has no octets. -/
theorem puts_writeEach (writes : session.Writes encoding id mode)
    (present : id < files.contents.length) (within : mode.Within (files.content id))
    (texts : List String) :
    Puts session files id mode (writeEach texts)
      (encoding.verdict .writeLine session.path (texts.map endedLine))
      (encoding.octetsOf ((texts.map endedLine).takeWhile encoding.encodes)) := by
  induction texts generalizing session files mode with
  | nil => exact .nothing rfl
  | cons text rest inductionHypothesis =>
      rw [List.map_cons, Encoding.verdict]
      cases encoded : encoding.encode (endedLine text) with
      | error refusal =>
          have line : (writeLine text).run session files = _ :=
            run_writeUnder_refused writes .writeLine encoded files
          rw [List.takeWhile_cons_of_neg (by rw [Encoding.encodes_of_error encoded]; decide)]
          exact .nothing (by rw [writeEach, run_bind, line])
      | ok octets =>
          have line : Puts session files id mode (writeLine text) (.ok ()) octets :=
            run_writeUnder_taken writes present within .writeLine encoded
          rw [List.takeWhile_cons_of_pos (Encoding.encodes_of_ok encoded),
            Encoding.octetsOf_cons encoded]
          refine line.bind within fun between names within' => ?_
          have behind :=
            inductionHypothesis (writes.advanced octets) (names.count ▸ present) within'
          rw [path_advanced] at behind
          exact behind

/-- A call on an open session writes the texts in front of the first that has no
octets, and answers with the refusal of that one. -/
theorem puts_writing (writes : session.Writes encoding id mode)
    (present : id < files.contents.length) (within : mode.Within (files.content id))
    (writing : Writing) :
    Puts session files id mode writing.action (writing.answer encoding session.path)
      (encoding.octetsOf (writing.taken encoding)) := by
  cases writing with
  | text whole => exact puts_writeUnder writes present within .write whole
  | line whole => exact puts_writeUnder writes present within .writeLine (endedLine whole)
  | lines texts =>
      have opened : session.isWriting = true := by
        rcases writes with ⟨cursor, held, -⟩
        rw [isWriting, held]
      obtain ⟨after, goes, wrote⟩ := puts_writeEach writes present within texts
      refine ⟨after, ?_, wrote⟩
      rw [Writing.action, writeLines, run_bind, run_session]
      dsimp only
      rw [if_pos opened]
      exact goes

end

/-- A session that writes to a file, and what one call has made of both. -/
structure Wrote (session next : Session) (files after : FileSystem) (encoding : Encoding)
    (id : FileId) (mode : WriteMode) (octets : Octets) : Prop where
  path : next.path = session.path
  writes : next.Writes encoding id (mode.advance octets.length)
  content : after.content id = mode.put (files.content id) octets
  names : SameNames files after

/-- A call that writes has written the octets of what it has accepted. -/
theorem run_writing_wrote {session : Session} {files : FileSystem} {encoding : Encoding}
    {id : FileId} {mode : WriteMode} (writes : session.Writes encoding id mode)
    (present : id < files.contents.length) (within : mode.Within (files.content id))
    (writing : Writing) :
    ∃ result next after, writing.action.run session files = (result, next, after) ∧
      Wrote session next files after encoding id mode (writing.octets session result) := by
  obtain ⟨after, goes, content, names⟩ := puts_writing writes present within writing
  refine ⟨_, _, after, goes, ?_⟩
  rw [Writing.octets, writes.encoding_eq]
  dsimp only
  rw [Writing.accepted_answer]
  exact ⟨session.path_advanced _, writes.advanced _, content, names⟩

/-- A session that has nothing open accepts nothing. -/
theorem run_writing_of_closed {session : Session} (closed : session.cursor = .closed)
    (files : FileSystem) (writing : Writing) :
    ∃ failure, writing.action.run session files = (.error failure, session, files) ∧
      writing.octets session (.error failure) = [] := by
  have nothing : ∀ operation, writing.octets session (.error (.notOpen operation session.path)) =
      [] := by
    intro operation
    unfold Writing.octets
    cases session.encoding <;> cases writing <;> rfl
  cases writing with
  | text whole => exact ⟨_, by simp [Writing.action, write, writeUnder, closed], nothing .write⟩
  | line whole =>
      exact ⟨_, by simp [Writing.action, writeLine, writeUnder, closed], nothing .writeLine⟩
  | lines texts =>
      exact ⟨_, by simp [Writing.action, writeLines, isWriting, closed], nothing .writeLines⟩

end Session

end Bytemark
