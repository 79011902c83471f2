/-
Module: Bytemark.Proofs.RoundTrip
Purpose: A text that a session wrote is read back, two collisions apart.
Trusted boundary: none
Main exports: Session.writeTexts, Session.run_forM_write, read_back_iff
-/
import Bytemark.Proofs.SessionWriting
import Bytemark.Proofs.SignedText

namespace Bytemark

open FileSystem

namespace Session

/-- Opens a writer that starts the file anew, writes texts, closes the session,
and answers the encoding that was chosen. -/
def writeTexts (encoding : Option Encoding) (texts : List String) : Action (Option Encoding) := do
  openWrite false encoding
  let opened ← Action.session
  texts.forM write
  close
  Action.answer opened.encoding

/-- Texts that were all written stand behind what the file held, encoded. -/
theorem run_forM_write {session after : Session} {files written : FileSystem}
    {encoding : Encoding} {id : FileId} {texts : List String}
    (atEnd : session.Writes encoding id (.overwrite (files.content id).length))
    (present : id < files.contents.length)
    (wrote : (texts.forM write).run session files = (.ok (), after, written)) :
    ∃ octets, encoding.encode (String.join texts) = .ok octets ∧
      written.content id = files.content id ++ octets ∧ SameNames files written := by
  induction texts generalizing session files with
  | nil =>
      cases wrote
      exact ⟨[], rfl, (List.append_nil _).symm, .refl _⟩
  | cons text rest inductionHypothesis =>
      rw [List.forM, Action.run_bind] at wrote
      have within : (WriteMode.overwrite (files.content id).length).Within (files.content id) :=
        Nat.le_refl _
      rcases run_writeUnder_of_file atEnd present within .write text with
        ⟨refusal, -, fails⟩ | ⟨first, next, between, encoded, writes, -, atEnd', content, names⟩
      · rw [write, fails] at wrote
        cases wrote
      · rw [write, writes] at wrote
        dsimp only at wrote
        have behind : between.content id = files.content id ++ first := by
          rw [content, WriteMode.put, List.take_length, List.drop_of_length_le (by omega),
            List.append_nil]
        rw [WriteMode.advance, ← List.length_append, ← behind] at atEnd'
        obtain ⟨octets, encodes, last, names'⟩ :=
          inductionHypothesis atEnd' (names.count ▸ present) wrote
        refine ⟨first ++ octets, ?_, ?_, names.trans names'⟩
        · rw [String.join_cons]
          exact Encoding.encode_append encoded encodes
        · rw [last, behind, List.append_assoc]

end Session

/-- What a session writes anew, at a path where nothing or a file was, is what a
session reads there afterwards, exactly if the octets that were written do not
collide with a signature.  A reader may have any default encoding, except that
ISO-8859-1, which leaves no signature, is only read by a reader that expects it. -/
theorem read_back_iff {writer after reader : Session} {files written : FileSystem}
    {encoding : Option Encoding} {texts : List String} {chosen : Option Encoding}
    (wellFormed : files.WellFormed) (regular : files.Regular writer.path)
    (wrote : (Session.writeTexts encoding texts).run writer files = (.ok chosen, after, written))
    (samePath : reader.path = writer.path)
    (expects : chosen = some .latin1 → reader.settings.defaultEncoding = .latin1) :
    ∃ used octets text, chosen = some used ∧ used.encode (String.join texts) = .ok octets ∧
      (Session.readAll.run reader written).1 = .ok text ∧
      (text = String.join texts ↔ ¬ used.Collides (String.join texts) octets) := by
  unfold Session.writeTexts at wrote
  rw [Action.run_bind] at wrote
  rcases Session.run_openWrite_anew wellFormed regular (Bool.false_and _) encoding with
    ⟨failure, fails⟩ | ⟨location, id, used, opened, between, opens, found, kept, signed, -, atEnd⟩
  · rw [fails] at wrote
    cases wrote
  · simp only [opens, Action.run_bind, Action.run_session] at wrote
    cases writing : (texts.forM Session.write).run opened between with
    | mk result rest =>
        rcases rest with ⟨last, final⟩
        rw [writing] at wrote
        cases result with
        | error failure => cases wrote
        | ok _ =>
            simp only [Session.run_close, Action.run_answer] at wrote
            cases wrote
            have known := atEnd.encoding_eq
            rw [← signed] at atEnd
            obtain ⟨octets, encodes, content, names⟩ :=
              Session.run_forM_write atEnd (lt_of_find kept found) writing
            rw [signed] at content
            have reads : written.find reader.path = .ok (location, .file id) := by
              rw [samePath, names.find]
              exact found
            refine ⟨used, octets, _, known, encodes,
              congrArg Prod.fst (Session.run_readAll_of_file reads), ?_⟩
            rw [content]
            exact Encoding.text_signed_eq_iff encodes
              (fun plain => expects (known.trans (congrArg some plain)))

/-- Written in UTF-16LE, a text that begins with U+0000 is read back as another one. -/
theorem read_back_iff_null :
    let files := FileSystem.empty ["home"]
    let writer := Session.new "a" default .silent
    let run := (Session.writeTexts (some (.utf16 .little)) ["\x00", "b"]).run writer files
    files.WellFormed ∧ files.Regular "a" ∧ run = (.ok (some (.utf16 .little)), run.2.1, run.2.2) ∧
      ∃ text, (Session.readAll.run writer run.2.2).1 = .ok text ∧ text ≠ "\x00b" := by
  intro files writer run
  have wellFormed : files.WellFormed := wellFormed_empty ["home"]
  have regular : files.Regular writer.path := by
    intro location node found
    have missing : files.find "a" = .error .notFound := by decide +kernel
    cases missing.symm.trans found
  have wrote : run = (.ok (some (.utf16 .little)), run.2.1, run.2.2) := by decide +kernel
  obtain ⟨used, octets, text, chosen, -, reads, exactly⟩ :=
    read_back_iff wellFormed regular wrote (show writer.path = writer.path from rfl) (by decide)
  cases chosen
  refine ⟨wellFormed, regular, wrote, text, reads, ?_⟩
  intro same
  have joined : String.join ["\x00", "b"] = "\x00b" := by decide +kernel
  have collides : (Encoding.utf16 .little).Collides (String.join ["\x00", "b"]) octets := by
    rw [joined]
    exact .inl ⟨rfl, by decide +kernel⟩
  exact exactly.mp (same.trans joined.symm) collides

end Bytemark
