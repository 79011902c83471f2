/-
Module: Bytemark.Proofs.RefusedOverwrites
Purpose: What a file holds when a text that should replace its content is refused.
Trusted boundary: none
Main exports: Encoding.first_refused, Session.overwrite, Session.run_overwrite_of_file,
  Session.run_overwrite_refused, refused_overwrites, refused_overwrite_empties
-/
import Mathlib.Data.List.TakeWhile
import Bytemark.Proofs.AcceptedWrites
import Bytemark.Proofs.AppendedText
import Bytemark.Proofs.InverseCodec
import Bytemark.Proofs.WrittenLines

namespace Bytemark

open FileSystem

/-!
To replace what a file holds is to open it anew, to write and to close it.  The file
is empty but for a signature as soon as it is open, and texts are encoded one by one
behind that, so a text that has no octets is refused when the old content is gone.
What the file holds then is what was written in front of that text.
-/

namespace Encoding

variable {encoding : Encoding}

/-- A refusal names the first text that has no octets. -/
theorem first_refused {operation : Operation} {path : String} {texts : List String}
    {failure : TextError} (refused : encoding.verdict operation path texts = .error failure) :
    ∃ text behind refusal, texts = texts.takeWhile encoding.encodes ++ text :: behind ∧
      encoding.encode text = .error refusal ∧
      failure = .unsupportedEncoding operation path refusal := by
  induction texts with
  | nil => cases refused
  | cons text rest inductionHypothesis =>
      rw [verdict] at refused
      cases encoded : encoding.encode text with
      | error refusal =>
          rw [encoded] at refused
          cases refused
          refine ⟨text, rest, refusal, ?_, encoded, rfl⟩
          rw [List.takeWhile_cons_of_neg (by rw [encodes_of_error encoded]; decide)]
          rfl
      | ok octets =>
          rw [encoded] at refused
          obtain ⟨first, behind, refusal, split, lacks, named⟩ := inductionHypothesis refused
          refine ⟨first, behind, refusal, ?_, lacks, named⟩
          rw [List.takeWhile_cons_of_pos (encodes_of_ok encoded), List.cons_append, ← split]

end Encoding

namespace Session

open Bytemark.Action

/-- Makes what a call writes the whole content of the file. -/
def overwrite (call : Writing) : Action Unit := do
  openWrite false none
  thenClose call.action

variable {session : Session} {files : FileSystem} {location : Location} {id : FileId}

/-- A file that is overwritten holds a signature and the texts in front of the first that
has no octets, whatever it held before. -/
theorem run_overwrite_of_file (wellFormed : files.WellFormed)
    (found : files.find session.path = .ok (location, .file id)) (call : Writing) :
    let used := session.renewed none (files.content id)
    ∃ after, (overwrite call).run session files =
        (call.answer used session.path, session.released, after) ∧
      after.content id = used.signatureOctets ++ used.octetsOf (call.taken used) ∧
      after.find session.path = .ok (location, .file id) := by
  intro used
  obtain ⟨between, opens, signed, names⟩ := run_openWrite_over wellFormed found none
  have found' : between.find session.path = .ok (location, .file id) :=
    (names.find session.path).trans found
  have present := lt_of_find (wellFormed.of_sameNames names) found'
  have atEnd : (WriteMode.overwrite used.signatureOctets.length).AtEnd (between.content id) :=
    (congrArg List.length signed).symm
  obtain ⟨after, goes, content, names'⟩ :=
    puts_writing (writes_begun session id used) present atEnd.within call
  refine ⟨after, ?_, ?_, (names'.find session.path).trans found'⟩
  · rw [overwrite, run_bind, opens]
    dsimp only
    rw [run_thenClose, goes, released_advanced]
    rfl
  · rw [content, atEnd.put, signed]

/-- Only ISO-8859-1 refuses texts, and it has no signature.  So the file holds the octets
of the texts in front of the one that is refused, and nothing else. -/
theorem run_overwrite_refused (wellFormed : files.WellFormed)
    (found : files.find session.path = .ok (location, .file id)) (call : Writing)
    {failure : TextError} {next : Session} {after : FileSystem}
    (fails : (overwrite call).run session files = (.error failure, next, after)) :
    let used := session.renewed none (files.content id)
    used = .latin1 ∧ next = session.released ∧
      after.find session.path = .ok (location, .file id) ∧
      ∃ front text behind refusal, call.texts = front ++ text :: behind ∧
        used.encode text = .error refusal ∧
        failure = .unsupportedEncoding call.operation session.path refusal ∧
        used.encode (String.join front) = .ok (after.content id) := by
  intro used
  obtain ⟨left, goes, content, found'⟩ := run_overwrite_of_file wellFormed found call
  rw [fails, Prod.mk.injEq, Prod.mk.injEq] at goes
  obtain ⟨answer, rfl, rfl⟩ := goes
  obtain ⟨text, behind, refusal, split, lacks, named⟩ := Encoding.first_refused answer.symm
  have latin : used = .latin1 := (Encoding.encode_eq_error_iff.mp lacks).1
  refine ⟨latin, rfl, found', _, text, behind, refusal, split, lacks, named, ?_⟩
  have unsigned : used.signatureOctets = [] := by rw [latin]; rfl
  rw [content, show session.renewed none (files.content id) = used from rfl, unsigned]
  exact Encoding.encode_join List.takeWhile_idem

end Session

/-- A text that is to replace what a file holds is refused only if ISO-8859-1 is the
encoding that was chosen and has no octets for it.  The old content is gone by then.
A file that should hold one text is empty; a file that should hold lines holds those in
front of the one that is refused, and of that line and those behind it nothing. -/
theorem refused_overwrites {session : Session} {files : FileSystem} {location : Location}
    {id : FileId} (wellFormed : files.WellFormed)
    (found : files.find session.path = .ok (location, .file id)) :
    let used := session.renewed none (files.content id)
    (∀ text failure next after,
      (Session.writeAll text).run session files = (.error failure, next, after) →
      used = .latin1 ∧ next = session.released ∧
        after.find session.path = .ok (location, .file id) ∧
        (∃ refusal, used.encode text = .error refusal ∧
          failure = .unsupportedEncoding .write session.path refusal) ∧
        after.content id = []) ∧
    ∀ lines failure next after,
      (Session.writeAllLines lines).run session files = (.error failure, next, after) →
      used = .latin1 ∧ next = session.released ∧
        after.find session.path = .ok (location, .file id) ∧
        ∃ front line behind refusal, lines = front ++ line :: behind ∧
          used.encode (endedLine line) = .error refusal ∧
          failure = .unsupportedEncoding .writeLine session.path refusal ∧
          used.encode (String.join (front.map endedLine)) = .ok (after.content id) := by
  intro used
  constructor
  · intro text failure next after fails
    obtain ⟨latin, closed, found', front, refused, behind, refusal, split, lacks, named, holds⟩ :=
      Session.run_overwrite_refused wellFormed found (.text text) fails
    obtain ⟨rfl, single⟩ : front = [] ∧ [text] = refused :: behind := by
      cases front with
      | nil => exact ⟨rfl, split⟩
      | cons first rest => exact absurd (congrArg List.length split) (by simp [Writing.texts])
    cases single
    exact ⟨latin, closed, found', ⟨refusal, lacks, named⟩, (Except.ok.inj holds).symm⟩
  · intro lines failure next after fails
    obtain ⟨latin, closed, found', front, refused, behind, refusal, split, lacks, named, holds⟩ :=
      Session.run_overwrite_refused wellFormed found (.lines lines) fails
    obtain ⟨before, others, rfl, rfl, parted⟩ := List.map_eq_append_iff.mp split
    obtain ⟨line, rest, rfl, rfl, rfl⟩ := List.map_eq_cons_iff.mp parted
    exact ⟨latin, closed, found', before, line, rest, refusal, rfl, lacks, named, holds⟩

/-- A euro sign that is refused has emptied the file, and behind a good line it leaves
that line in place of what was there. -/
theorem refused_overwrite_empties :
    let files := FileSystem.holding "a" [0x6F, 0x6C, 0x64]
    let session := Session.new "a" { defaultEncoding := .latin1 } .silent
    let whole := (Session.writeAll "€").run session files
    let lines := (Session.writeAllLines ["new", "€"]).run session files
    files.octets? "a" = some [0x6F, 0x6C, 0x64] ∧
      whole.1 = .error (.unsupportedEncoding .write "a" ⟨'€', .latin1⟩) ∧
      whole.2.2.octets? "a" = some [] ∧
      lines.1 = .error (.unsupportedEncoding .writeLine "a" ⟨'€', .latin1⟩) ∧
      lines.2.2.octets? "a" = some [0x6E, 0x65, 0x77, 0x0A] := by
  decide +kernel

/-- The second of two lines is refused, in a file whose signature is not kept. -/
theorem refused_overwrites_euro :
    let files := FileSystem.holding "a" [0xEF, 0xBB, 0xBF, 0x61]
    let session := Session.new "a" { defaultEncoding := .latin1, keepExistingSignature := false }
      .silent
    let whole := (Session.writeAll "a€").run session files
    let lines := (Session.writeAllLines ["ä", "€"]).run session files
    files.WellFormed ∧ files.find "a" = .ok (.ofNames ["a"], .file 0) ∧
      whole.1 = .error (.unsupportedEncoding .write "a" ⟨'€', .latin1⟩) ∧
      whole.2.2.content 0 = [] ∧
      lines.1 = .error (.unsupportedEncoding .writeLine "a" ⟨'€', .latin1⟩) ∧
      lines.2.2.content 0 = [0xE4, 0x0A] := by
  intro files session whole lines
  have wellFormed : files.WellFormed := wellFormed_holding "a" _
  have found : files.find session.path = .ok (.ofNames ["a"], .file 0) :=
    show files.find "a" = _ from rfl
  have refusesText : whole.1 = .error (.unsupportedEncoding .write "a" ⟨'€', .latin1⟩) := by
    decide +kernel
  have refusesLine : lines.1 = .error (.unsupportedEncoding .writeLine "a" ⟨'€', .latin1⟩) := by
    decide +kernel
  obtain ⟨ofText, ofLines⟩ := refused_overwrites wellFormed found
  obtain ⟨-, -, -, -, empty⟩ :=
    ofText "a€" _ whole.2.1 whole.2.2 (Prod.ext refusesText rfl)
  obtain ⟨latin, -, -, front, line, behind, refusal, split, lacks, -, holds⟩ :=
    ofLines ["ä", "€"] _ lines.2.1 lines.2.2 (Prod.ext refusesLine rfl)
  rw [latin] at lacks holds
  refine ⟨wellFormed, found, refusesText, empty, refusesLine, ?_⟩
  cases front with
  | nil =>
      cases split
      have encoded : Encoding.latin1.encode (endedLine "ä") = .ok [0xE4, 0x0A] := by decide +kernel
      cases encoded.symm.trans lacks
  | cons first others =>
      obtain ⟨rfl, nothing⟩ : first = "ä" ∧ others = [] := by
        cases others with
        | nil => exact ⟨(List.cons.inj split).1.symm, rfl⟩
        | cons second rest => exact absurd (congrArg List.length split) (by simp)
      subst nothing
      have encoded : Encoding.latin1.encode (String.join (["ä"].map endedLine)) =
          .ok [0xE4, 0x0A] := by decide +kernel
      exact (Except.ok.inj (encoded.symm.trans holds)).symm

end Bytemark
