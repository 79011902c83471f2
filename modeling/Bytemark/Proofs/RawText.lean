/-
Module: Bytemark.Proofs.RawText
Purpose: Decoding a whole file in one go agrees with reading it behind its signature.
Trusted boundary: none
Main exports: Encoding.decode_of_encode_append, FileSystem.loadWith_of_file,
  Session.run_readAllWith_of_file, raw_text_of_signature
-/
import Bytemark.Proofs.ProbedStreams
import Bytemark.Proofs.SessionRun

namespace Bytemark

open Codec FileSystem

/-!
Every signature is the encoding of one and the same character.  A reader that
looks for signatures takes it off the stream, and one that decodes everything
gets to see it in front of the text; behind it a decoder is as new, so both read
the same from there on.
-/

/-! ### Signatures as text -/

/-- A decoder goes on behind an encoded text as if it had just begun. -/
theorem Encoding.decode_of_encode_append {encoding : Encoding} {text : String} {octets : Octets}
    (encoded : encoding.encode text = .ok octets) (rest : Octets) :
    encoding.decode (octets ++ rest) = text ++ encoding.decode rest := by
  have front : (Decoder.new encoding).feed octets = (text.toList.map .char, Decoder.new encoding) :=
    feed_of_encodeFrom encoded
  apply String.toList_inj.mp
  rw [String.toList_append, toList_decode, toList_decode, Decoder.feed_append, front]
  simp only [List.map_append, toChar_map_char, List.append_assoc]

namespace Signature

/-- The text of a signature on its own: U+FEFF. -/
def mark : String := "\uFEFF"

/-- Every signature encodes the same character. -/
theorem encode_mark :
    ∀ signature ∈ table, signature.encoding.encode mark = .ok signature.octets := by
  decide +kernel

/-- Decoded like any other octets, a signature is one character in front of the
text behind it. -/
theorem decode_marked {signature : Signature} {octets : Octets} (known : signature ∈ table)
    (begins : signature.octets <+: octets) :
    signature.encoding.decode octets =
      mark ++ signature.encoding.decode (octets.drop signature.octets.length) := by
  obtain ⟨rest, rfl⟩ := begins
  rw [List.drop_left]
  exact Encoding.decode_of_encode_append (encode_mark signature known) rest

end Signature

namespace Resolver

theorem text_of_longest {signature : Signature} {octets : Octets}
    (longest : signature.Longest octets) (resolver : Resolver) :
    signature.encoding.decode octets = Signature.mark ++ resolver.text octets := by
  have resolved : resolver.text octets =
      signature.encoding.decode (octets.drop signature.octets.length) := by
    rw [text, Resolution.ofOctets, Signature.detect_of_longest longest]
    rfl
  rw [resolved]
  exact Signature.decode_marked longest.known longest.begins

theorem text_of_unmarked {octets : Octets}
    (unmarked : ∀ signature ∈ Signature.table, ¬ signature.octets <+: octets)
    (resolver : Resolver) :
    resolver.defaultEncoding.decode octets = resolver.text octets := by
  rw [text, Resolution.ofOctets, Signature.detect_of_unmarked unmarked]
  rfl

end Resolver

/-! ### Whole files -/

theorem Source.drain_ofOctets (octets : Octets) :
    (Source.ofOctets octets).drain.1 = ⟨octets, none⟩ := by
  cases octets with
  | nil => rfl
  | cons octet rest => simp [Source.ofOctets, Source.drain, Source.drainFrom]

theorem FileSystem.readFile_of_file {files : FileSystem} {path : String} {location : Location}
    {id : FileId} (found : files.find path = .ok (location, .file id)) :
    files.readFile path = .ok (files.content id) := by
  have drained : (files.view { node := .file id }).drain.1 = ⟨files.content id, none⟩ := by
    rw [view_start]
    exact Source.drain_ofOctets _
  simp only [readFile, openRead_of_file found, bind, Except.bind, drained]

theorem FileSystem.loadWith_of_file {files : FileSystem} {path : String} {location : Location}
    {id : FileId} (found : files.find path = .ok (location, .file id)) (encoding : Encoding) :
    files.loadWith path encoding = .ok (encoding.decode (files.content id)) := by
  rw [loadWith, readFile_of_file found]
  rfl

/-- A file is decoded in the encoding that is asked for, its signature included. -/
theorem Session.run_readAllWith_of_file {session : Session} {files : FileSystem}
    {location : Location} {id : FileId}
    (found : files.find session.path = .ok (location, .file id)) (encoding : Encoding) :
    (readAllWith encoding).run session files =
      (.ok (encoding.decode (files.content id)), session.released, files) := by
  rw [run_readAllWith, loadWith_of_file found]
  rfl

/-- Decoding a whole file in the encoding of the longest signature that it begins
with gives U+FEFF and then the text that reading gives; where there is no signature,
decoding in the default encoding of the reader gives just that text. -/
theorem raw_text_of_signature {raw reader : Session} {files : FileSystem} {location : Location}
    {id : FileId} (found : files.find reader.path = .ok (location, .file id))
    (samePath : raw.path = reader.path) :
    ∃ text, Session.readAll.run reader files = (.ok text, reader.released, files) ∧
      (∀ signature : Signature, signature.Longest (files.content id) →
        (Session.readAllWith signature.encoding).run raw files =
          (.ok ("\uFEFF" ++ text), raw.released, files)) ∧
      ((∀ signature ∈ Signature.table, ¬ signature.octets <+: files.content id) →
        (Session.readAllWith reader.settings.defaultEncoding).run raw files =
          (.ok text, raw.released, files)) := by
  refine ⟨_, Session.run_readAll_of_file found, ?_, ?_⟩
  · intro signature longest
    rw [Session.run_readAllWith_of_file (samePath ▸ found),
      Resolver.text_of_longest longest reader.resolver]
    rfl
  · intro unmarked
    have same := Resolver.text_of_unmarked unmarked reader.resolver
    rw [Session.run_readAllWith_of_file (samePath ▸ found), ← same]
    rfl

/-- The signature of UTF-32LE begins with that of UTF-16LE, and the file ends within a
character; two octets of a signature are none. -/
theorem raw_text_of_signature_torn :
    let session := Session.new "a" default .silent
    let wide := FileSystem.holding "a" [0xFF, 0xFE, 0x00, 0x00, 0x41, 0x00, 0x00, 0x00, 0x42]
    let plain := FileSystem.holding "a" [0xEF, 0xBB, 0x41]
    (wide.find "a" = .ok (.ofNames ["a"], .file 0) ∧
      Session.readAll.run session wide = (.ok "A\uFFFD", session, wide) ∧
      (Session.readAllWith (.utf32 .little)).run session wide =
        (.ok ("\uFEFF" ++ "A\uFFFD"), session, wide)) ∧
    plain.find "a" = .ok (.ofNames ["a"], .file 0) ∧
      Session.readAll.run session plain = (.ok "\uFFFDA", session, plain) ∧
      (Session.readAllWith .utf8).run session plain = (.ok "\uFFFDA", session, plain) := by
  intro session wide plain
  have foundWide : wide.find session.path = .ok (.ofNames ["a"], .file 0) :=
    show wide.find "a" = _ from rfl
  have foundPlain : plain.find session.path = .ok (.ofNames ["a"], .file 0) :=
    show plain.find "a" = _ from rfl
  have readsWide : Session.readAll.run session wide = (.ok "A\uFFFD", session, wide) := by
    decide +kernel
  have readsPlain : Session.readAll.run session plain = (.ok "\uFFFDA", session, plain) := by
    decide +kernel
  have longest : (⟨.utf32 .little, [0xFF, 0xFE, 0x00, 0x00]⟩ : Signature).Longest
      (wide.content 0) := ⟨by decide, by decide, by decide⟩
  obtain ⟨text, reads, marked, -⟩ := raw_text_of_signature foundWide rfl
  cases readsWide.symm.trans reads
  obtain ⟨text, reads', -, unmarked⟩ := raw_text_of_signature foundPlain rfl
  cases readsPlain.symm.trans reads'
  have decodesWide := marked _ longest
  have decodesPlain := unmarked (by decide)
  exact ⟨⟨foundWide, readsWide, decodesWide⟩, foundPlain, readsPlain, decodesPlain⟩

end Bytemark
