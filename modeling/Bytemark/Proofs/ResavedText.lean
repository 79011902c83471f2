/-
Module: Bytemark.Proofs.ResavedText
Purpose: Saving the text that was read from a file leaves its octets as they were.
Trusted boundary: none
Main exports: Resolution.signed_of_marked, Session.run_writeAll_of_file, resave_keeps_octets
-/
import Bytemark.Proofs.AppendedText
import Bytemark.Proofs.InverseCodec
import Bytemark.Proofs.ProbedStreams

namespace Bytemark

open Codec FileSystem Bytemark.Action

/-!
The writer resolves the file for itself, by the octets that the reader saw, so
both arrive at one encoding.  A signature that was taken off for reading is
written again in front of the text, and the text is written as the octets that
it was read from; a file without a signature gets one unless its encoding has
none.
-/

theorem Signature.signatureOctets_of_mem :
    ∀ signature ∈ table, signature.encoding.signatureOctets = signature.octets := by decide

namespace Resolution

/-- The octets that are written for a file: the signature of its encoding and
what is behind its own signature. -/
def signed (resolution : Resolution) (held : Octets) : Octets :=
  resolution.encoding.signatureOctets ++ held.drop resolution.signatureLength

/-- A signature that is there is written again. -/
theorem signed_of_marked {held : Octets}
    (marked : ∃ signature ∈ Signature.table, signature.octets <+: held) (default : Encoding) :
    (ofOctets held default).signed held = held := by
  cases found : Signature.detect held with
  | none =>
      obtain ⟨signature, known, begins⟩ := marked
      have unmarked := List.find?_eq_none.mp found signature known
      exact absurd ((Signature.marks_iff signature held).mpr begins) unmarked
  | some signature =>
      obtain ⟨known, begins⟩ := Signature.prefix_of_detect found
      rw [ofOctets, found]
      change signature.encoding.signatureOctets ++ held.drop signature.octets.length = held
      rw [Signature.signatureOctets_of_mem signature known]
      exact List.prefix_iff_eq_append.mp begins

/-- Where there is none, that of the default encoding is added. -/
theorem signed_of_unmarked {held : Octets}
    (unmarked : ¬ ∃ signature ∈ Signature.table, signature.octets <+: held)
    (default : Encoding) :
    (ofOctets held default).signed held = default.signatureOctets ++ held := by
  have nothing : Signature.detect held = none :=
    Signature.detect_of_unmarked fun signature known begins => unmarked ⟨signature, known, begins⟩
  rw [ofOctets, nothing]
  rfl

end Resolution

namespace Session

/-- A session that keeps signatures makes a text the whole content of a file in
the encoding that the file had. -/
theorem run_writeAll_of_file {session : Session} {files : FileSystem} {location : Location}
    {id : FileId} (wellFormed : files.WellFormed)
    (found : files.find session.path = .ok (location, .file id))
    (keeps : session.settings.keepExistingSignature = true) {text : String} {octets : Octets}
    (encoded : (Resolution.ofOctets (files.content id)
      session.settings.defaultEncoding).encoding.encode text = .ok octets) :
    ∃ after, (writeAll text).run session files = (.ok (), session.released, after) ∧
      after.content id = (Resolution.ofOctets (files.content id)
        session.settings.defaultEncoding).encoding.signatureOctets ++ octets ∧
      SameNames files after := by
  have keptEncoding : session.renewed none (files.content id) =
      (Resolution.ofOctets (files.content id) session.settings.defaultEncoding).encoding := by
    rw [renewed, Option.getD_none, if_pos keeps]
  obtain ⟨between, opened, signed, names⟩ := run_openWrite_over wellFormed found none
  rw [keptEncoding] at opened signed
  generalize Resolution.ofOctets (files.content id) session.settings.defaultEncoding =
    resolution at encoded opened signed ⊢
  have present : id < between.contents.length :=
    lt_of_find (wellFormed.of_sameNames names) ((names.find session.path).trans found)
  have atEnd := writes_begun session id resolution.encoding
  have within : (WriteMode.overwrite resolution.encoding.signatureOctets.length).Within
      (between.content id) := by
    rw [signed]
    exact Nat.le_refl _
  obtain ⟨after, wrote, content, names'⟩ :=
    run_writeUnder_taken atEnd present within .write encoded
  refine ⟨after, ?_, ?_, names.trans names'⟩
  · rw [writeAll, run_bind, opened]
    dsimp only
    rw [run_thenClose, write, wrote, released_advanced]
    rfl
  · rw [content, signed, WriteMode.put, List.take_length, List.drop_of_length_le (by simp),
      List.append_nil]

end Session

/-- Reading a whole file and saving its text again, with the same default
encoding and signatures kept, does not fail unless the text has an U+FFFD.  The
file then holds the octets that it held before if they began with a signature or
the default encoding has none; else the signature of the default encoding was put
in front of them. -/
theorem resave_keeps_octets {reader writer : Session} {files : FileSystem} {location : Location}
    {id : FileId} (wellFormed : files.WellFormed)
    (found : files.find reader.path = .ok (location, .file id))
    (samePath : writer.path = reader.path)
    (sameDefault : writer.settings.defaultEncoding = reader.settings.defaultEncoding)
    (keeps : writer.settings.keepExistingSignature = true) :
    let held := files.content id
    let default := reader.settings.defaultEncoding
    let marked := ∃ signature ∈ Signature.table, signature.octets <+: held
    ∃ text, Session.readAll.run reader files = (.ok text, reader.released, files) ∧
      (replacement ∉ text.toList →
        ∃ after, (Session.writeAll text).run writer files = (.ok (), writer.released, after) ∧
          after.find reader.path = .ok (location, .file id) ∧
          (marked ∨ default = .latin1 → after.content id = held) ∧
          (¬ (marked ∨ default = .latin1) →
            after.content id = default.signatureOctets ++ held)) := by
  intro held default marked
  refine ⟨_, Session.run_readAll_of_file found, ?_⟩
  intro plain
  have encoded : (Resolution.ofOctets held default).encoding.encode (reader.resolver.text held) =
      .ok (held.drop (Resolution.ofOctets held default).signatureLength) :=
    Encoding.encode_decode_of_plain plain
  have resolves : Resolution.ofOctets held default =
      Resolution.ofOctets held writer.settings.defaultEncoding :=
    congrArg (Resolution.ofOctets held) sameDefault.symm
  obtain ⟨after, wrote, content, names⟩ :=
    Session.run_writeAll_of_file wellFormed (samePath ▸ found) keeps (resolves ▸ encoded)
  rw [← resolves] at content
  have signed : after.content id = (Resolution.ofOctets held default).signed held := content
  refine ⟨after, wrote, (names.find reader.path).trans found, ?_, ?_⟩
  · rintro (begins | plainDefault)
    · rw [signed, Resolution.signed_of_marked begins]
    · by_cases begins : marked
      · rw [signed, Resolution.signed_of_marked begins]
      · rw [signed, Resolution.signed_of_unmarked begins, plainDefault]
        rfl
  · intro other
    rw [signed, Resolution.signed_of_unmarked fun begins => other (.inl begins)]

/-- A surrogate pair behind the signature of UTF-16BE stays as it is, and a file
without a signature gets that of UTF-8. -/
theorem resave_keeps_octets_pair :
    let session := Session.new "a" default .silent
    let marked := FileSystem.holding "a" [0xFE, 0xFF, 0xD8, 0x34, 0xDD, 0x1E]
    let plain := FileSystem.holding "a" [0xC3, 0xA4]
    session.settings.keepExistingSignature = true ∧
      (marked.WellFormed ∧ marked.find "a" = .ok (.ofNames ["a"], .file 0) ∧
        Session.readAll.run session marked = (.ok "𝄞", session, marked) ∧
        ∃ after, (Session.writeAll "𝄞").run session marked = (.ok (), session, after) ∧
          after.content 0 = [0xFE, 0xFF, 0xD8, 0x34, 0xDD, 0x1E]) ∧
      (plain.WellFormed ∧ plain.find "a" = .ok (.ofNames ["a"], .file 0) ∧
        Session.readAll.run session plain = (.ok "ä", session, plain) ∧
        ∃ after, (Session.writeAll "ä").run session plain = (.ok (), session, after) ∧
          after.content 0 = [0xEF, 0xBB, 0xBF, 0xC3, 0xA4]) := by
  intro session marked plain
  have keeps : session.settings.keepExistingSignature = true := rfl
  have foundMarked : marked.find session.path = .ok (.ofNames ["a"], .file 0) :=
    show marked.find "a" = _ from rfl
  have foundPlain : plain.find session.path = .ok (.ofNames ["a"], .file 0) :=
    show plain.find "a" = _ from rfl
  have readsMarked : Session.readAll.run session marked = (.ok "𝄞", session, marked) := by
    decide +kernel
  have readsPlain : Session.readAll.run session plain = (.ok "ä", session, plain) := by
    decide +kernel
  obtain ⟨text, reads, resaves⟩ :=
    resave_keeps_octets (wellFormed_holding "a" _) foundMarked rfl rfl keeps
  cases readsMarked.symm.trans reads
  obtain ⟨after, wrote, -, same, -⟩ := resaves (by decide +kernel)
  obtain ⟨text, reads, resaves⟩ :=
    resave_keeps_octets (wellFormed_holding "a" _) foundPlain rfl rfl keeps
  cases readsPlain.symm.trans reads
  obtain ⟨after', wrote', -, -, signed⟩ := resaves (by decide +kernel)
  refine ⟨keeps, ⟨wellFormed_holding "a" _, foundMarked, readsMarked, after, wrote, ?_⟩,
    ⟨wellFormed_holding "a" _, foundPlain, readsPlain, after', wrote', ?_⟩⟩
  · exact same (by decide +kernel)
  · exact signed (by decide +kernel)

end Bytemark
