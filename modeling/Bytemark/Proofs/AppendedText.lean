/-
Module: Bytemark.Proofs.AppendedText
Purpose: A text that is appended to a file is read behind what was read before.
Trusted boundary: none
Main exports: Decoder.feed_of_interrupted, Decoder.feed_finish_of_encodeFrom,
  Encoding.decode_append_of_encode, Resolver.text_append_of_encode, append_extends_text
-/
import Bytemark.Proofs.CarriedOctets
import Bytemark.Proofs.SessionWriting

namespace Bytemark

open Codec FileSystem Bytemark.Action

/-!
A file may end inside a character.  Read to its end it then has one U+FFFD
there, and the same U+FFFD must be seen once more octets follow: the first octet
or unit of a character never continues another one.  Only half a unit would pair
up with the octets behind it, so whole units are asked for.
-/

/-! ### The first octets of a character -/

namespace Codec

namespace Utf8

/-- The first octet of a character continues no other one. -/
theorem encode_eq_cons (c : Char) :
    ∃ first rest, encode c = first :: rest ∧ (first.toNat < 0x80 ∨ 0xBF < first.toNat) := by
  have scalar := toNat_isScalar c
  unfold encode
  dsimp only
  split
  · exact ⟨_, _, rfl, by rw [toNat_ofNat (by omega)]; omega⟩
  · split
    · exact ⟨_, _, rfl, by rw [toNat_ofNat (by omega)]; omega⟩
    · split
      · exact ⟨_, _, rfl, by rw [toNat_ofNat (by omega)]; omega⟩
      · exact ⟨_, _, rfl, by rw [toNat_ofNat (by omega)]; omega⟩

theorem step_of_first {carry : Octets} {octet : UInt8} (unfinished : carry ≠ [])
    (first : octet.toNat < 0x80 ∨ 0xBF < octet.toNat) :
    step carry octet = (step [] octet).afterMalformed := by
  have notTail : isTail octet = false := by
    rw [← Bool.not_eq_true, isTail_iff]
    omega
  have notSecond (lead : UInt8) : isSecond lead octet = false := by
    rw [← Bool.not_eq_true, isSecond_iff]
    omega
  match carry, unfinished with
  | [a], _ => simp [step, notSecond]
  | [a, b], _ => simp [step, notTail]
  | a :: b :: c :: _, _ => simp [step, notTail]

end Utf8

namespace Utf16

/-- The first unit of a character closes no pair. -/
theorem encode_eq_cons (order : ByteOrder) (c : Char) :
    ∃ first second rest, encode order c = first :: second :: rest ∧
      isLow (unitOf order first second) = false := by
  have scalar := toNat_isScalar c
  unfold encode
  dsimp only
  split
  · rename_i basic
    obtain ⟨first, second, octets, unit⟩ := unitOf_unitOctets order basic
    refine ⟨first, second, [], octets, ?_⟩
    rw [unit, ← Bool.not_eq_true, isLow_iff]
    omega
  · obtain ⟨first, second, octets, unit⟩ := unitOf_unitOctets order
      (show 0xD800 + (c.toNat - 0x10000) / 0x400 < 0x10000 by omega)
    refine ⟨first, second, unitOctets order (0xDC00 + (c.toNat - 0x10000) % 0x400), ?_, ?_⟩
    · rw [octets]
      rfl
    · rw [unit, ← Bool.not_eq_true, isLow_iff]
      omega

/-- A unit that closes no pair is read as a unit of its own. -/
theorem step_of_apart {order : ByteOrder} {first second : UInt8}
    (apart : isLow (unitOf order first second) = false) (a b : UInt8) :
    step order [a, b, first] second = (step order [first] second).afterMalformed := by
  simp only [step, apart]
  rfl

end Utf16

end Codec

namespace Decoder

section

variable {encoding : Encoding} {carry : Octets}

/-- An octet that shows that what is carried is malformed is read once more, behind
what is kept. -/
theorem feed_of_afterMalformed {kept : Octets} {octet : UInt8}
    (replaced : encoding.step carry octet = (encoding.step kept octet).afterMalformed)
    (rest : Octets) :
    (⟨encoding, carry⟩ : Decoder).feed (octet :: rest) =
      (.malformed :: ((⟨encoding, kept⟩ : Decoder).feed (octet :: rest)).1,
        ((⟨encoding, kept⟩ : Decoder).feed (octet :: rest)).2) := by
  rw [feed_cons, feed_cons]
  dsimp only
  rw [replaced]
  rfl

/-- A surrogate is left alone by a unit that does not close the pair. -/
theorem feed_of_unpaired {order : ByteOrder} {first second : UInt8}
    (apart : Utf16.isLow (Utf16.unitOf order first second) = false) (a b : UInt8)
    (rest : Octets) :
    (⟨.utf16 order, [a, b]⟩ : Decoder).feed (first :: second :: rest) =
      (.malformed :: ((Decoder.new (.utf16 order)).feed (first :: second :: rest)).1,
        ((Decoder.new (.utf16 order)).feed (first :: second :: rest)).2) := by
  -- The first octet of the unit is carried either way; only the second one shows
  -- that the pair stays open.
  have behind : (⟨.utf16 order, [a, b]⟩ : Decoder).feed (first :: second :: rest) =
      (⟨.utf16 order, [a, b, first]⟩ : Decoder).feed (second :: rest) := feed_of_wait rfl _
  have fresh : (Decoder.new (.utf16 order)).feed (first :: second :: rest) =
      (⟨.utf16 order, [first]⟩ : Decoder).feed (second :: rest) := feed_of_wait rfl _
  have replaced : (Encoding.utf16 order).step [a, b, first] second =
      ((Encoding.utf16 order).step [first] second).afterMalformed :=
    Utf16.step_of_apart apart a b
  rw [behind, fresh]
  exact feed_of_afterMalformed replaced rest

/-- What is carried becomes one malformed sequence as soon as a character
begins, and the decoder goes on as if it had just begun. -/
theorem feed_of_interrupted (carried : encoding.Carried carry) (unfinished : carry ≠ [])
    (units : carry.length % encoding.unitSize = 0) {c : Char} {octets : Octets}
    (character : encoding.encodeChar c = some octets) (rest : Octets) :
    (⟨encoding, carry⟩ : Decoder).feed (octets ++ rest) =
      (.malformed :: ((Decoder.new encoding).feed (octets ++ rest)).1,
        ((Decoder.new encoding).feed (octets ++ rest)).2) := by
  cases encoding with
  | utf8 =>
      cases character
      obtain ⟨first, more, octets, begins⟩ := Utf8.encode_eq_cons c
      have replaced : Encoding.utf8.step carry first =
          (Encoding.utf8.step [] first).afterMalformed :=
        Utf8.step_of_first unfinished begins
      rw [octets]
      exact feed_of_afterMalformed replaced (more ++ rest)
  | utf16 order =>
      cases character
      obtain ⟨first, second, more, octets, apart⟩ := Utf16.encode_eq_cons order c
      rw [octets]
      cases carried with
      | nothing => exact absurd rfl unfinished
      | half => exact absurd units (show ¬ 1 % 2 = 0 by decide)
      | highAndHalf opens => exact absurd units (show ¬ 3 % 2 = 0 by decide)
      | @high a b opens => exact feed_of_unpaired apart a b (more ++ rest)
  | utf32 order =>
      cases carried with
      | nothing => exact absurd rfl unfinished
      | one => exact absurd units (show ¬ 1 % 4 = 0 by decide)
      | two => exact absurd units (show ¬ 2 % 4 = 0 by decide)
      | three => exact absurd units (show ¬ 3 % 4 = 0 by decide)
  | latin1 => exact absurd carried unfinished

/-- What is carried when an encoded text begins is read as at the end of the
stream, and the text is read behind it. -/
theorem feed_finish_of_encodeFrom (carried : encoding.Carried carry)
    (units : carry.length % encoding.unitSize = 0) {text : List Char} {octets : Octets}
    (encoded : encoding.encodeFrom [] text = .ok octets) :
    ((⟨encoding, carry⟩ : Decoder).feed octets).1 ++
        ((⟨encoding, carry⟩ : Decoder).feed octets).2.finish.1 =
      (⟨encoding, carry⟩ : Decoder).finish.1 ++ text.map .char := by
  cases text with
  | nil =>
      cases encoded
      rw [List.reverse_nil, feed_nil, List.map_nil, List.append_nil]
      rfl
  | cons c rest =>
      have fresh := Encoding.feed_of_encodeFrom encoded
      obtain ⟨first, following, character, -, rfl⟩ := Encoding.encodeFrom_cons_eq_ok encoded
      by_cases finished : carry = []
      · subst finished
        change ((Decoder.new encoding).feed _).1 ++ ((Decoder.new encoding).feed _).2.finish.1 = _
        rw [fresh]
        exact List.append_nil _
      · rw [feed_of_interrupted carried finished units character, fresh]
        simp [finish, Decoder.new, finished]

end

end Decoder

/-- A text that is appended to whole units is decoded behind what they are
decoded to, well-formed or not. -/
theorem Encoding.decode_append_of_encode {encoding : Encoding} {held octets : Octets}
    {text : String} (units : held.length % encoding.unitSize = 0)
    (encoded : encoding.encode text = .ok octets) :
    encoding.decode (held ++ octets) = encoding.decode held ++ text := by
  obtain ⟨pieces, carry, fed, carried, -, same⟩ := Decoder.feed_new encoding held
  have behind := Decoder.feed_finish_of_encodeFrom carried (same.trans units) encoded
  rw [← String.toList_inj, String.toList_append, toList_decode, toList_decode,
    Decoder.feed_append, fed]
  dsimp only
  rw [List.append_assoc, behind, ← List.append_assoc, List.map_append, toChar_map_char]

/-- Unless the octets that are added make another signature of the first ones,
the text that they write is read behind what was read before. -/
theorem Resolver.text_append_of_encode (resolver : Resolver) {held octets : Octets} {text : String}
    (encoded : (Resolution.ofOctets held resolver.defaultEncoding).encoding.encode text =
      .ok octets)
    (same : Signature.detect (held ++ octets) = Signature.detect held)
    (units : (held.length -
        (Resolution.ofOctets held resolver.defaultEncoding).signatureLength) %
      (Resolution.ofOctets held resolver.defaultEncoding).encoding.unitSize = 0) :
    resolver.text (held ++ octets) = resolver.text held ++ text := by
  have again : Resolution.ofOctets (held ++ octets) resolver.defaultEncoding =
      Resolution.ofOctets held resolver.defaultEncoding := by
    rw [Resolution.ofOctets, Resolution.ofOctets, same]
  have within := Resolution.signatureLength_le held resolver.defaultEncoding
  rw [← List.length_drop] at units
  rw [Resolver.text, Resolver.text, again, Resolution.text, Resolution.text,
    List.drop_append_of_le_length within]
  exact Encoding.decode_append_of_encode units encoded

namespace Session

/-- Opens a writer behind what the file holds, in the encoding that it has, and
writes a text. -/
def appendText (text : String) : Action Unit := do
  openAppend none
  write text

/-- A text is added to a file in full, in the encoding of the file, or else
nothing is. -/
theorem run_appendText_of_file {session : Session} {files : FileSystem} {location : Location}
    {id : FileId} (wellFormed : files.WellFormed)
    (found : files.find session.path = .ok (location, .file id)) (text : String) :
    let resolution := Resolution.ofOctets (files.content id) session.settings.defaultEncoding
    (∃ refusal next, resolution.encoding.encode text = .error refusal ∧
      (appendText text).run session files =
        (.error (.unsupportedEncoding .write session.path refusal), next, files)) ∨
    ∃ octets next after, resolution.encoding.encode text = .ok octets ∧
      (appendText text).run session files = (.ok (), next, after) ∧
      after.content id = files.content id ++ octets ∧ SameNames files after := by
  intro resolution
  have opens := run_openAppend_eq found none
  dsimp only at opens
  have writes : (session.writing ⟨⟨.file id, .append⟩, resolution.encoding, 0, false⟩
      resolution.encoding resolution.hasSignature).Writes resolution.encoding id .append :=
    ⟨_, rfl, rfl, rfl, rfl⟩
  have present := lt_of_find wellFormed found
  rw [appendText, run_bind, opens]
  dsimp only
  rcases run_writeUnder_of_file writes present trivial .write text with
    ⟨refusal, lacks, fails⟩ | ⟨octets, next, after, encoded, wrote, -, -, content, names⟩
  · exact .inl ⟨refusal, _, lacks, fails⟩
  · exact .inr ⟨octets, next, after, encoded, wrote, content, names⟩

end Session

/-- Appending a text to a file succeeds exactly if the encoding of the file has
octets for it.  The file then holds these octets behind its own and nothing in
between, and unless they make another signature of its first octets, or the file
ends within a code unit, its text is the one before, followed by the new text. -/
theorem append_extends_text {writer reader : Session} {files : FileSystem} {location : Location}
    {id : FileId} (wellFormed : files.WellFormed)
    (found : files.find writer.path = .ok (location, .file id))
    (samePath : reader.path = writer.path)
    (sameDefault : reader.settings.defaultEncoding = writer.settings.defaultEncoding)
    (text : String) :
    let held := files.content id
    let resolution := Resolution.ofOctets held writer.settings.defaultEncoding
    ((∃ next after, (Session.appendText text).run writer files = (.ok (), next, after)) ↔
      ∃ octets, resolution.encoding.encode text = .ok octets) ∧
    ∀ next after, (Session.appendText text).run writer files = (.ok (), next, after) →
      ∃ octets, resolution.encoding.encode text = .ok octets ∧
        after.find writer.path = .ok (location, .file id) ∧
        after.content id = held ++ octets ∧
        (Signature.detect (held ++ octets) = Signature.detect held →
          (held.length - resolution.signatureLength) % resolution.encoding.unitSize = 0 →
          ∃ before, (Session.readAll.run reader files).1 = .ok before ∧
            (Session.readAll.run reader after).1 = .ok (before ++ text)) := by
  intro held resolution
  rcases Session.run_appendText_of_file wellFormed found text with
    ⟨refusal, left, lacks, fails⟩ | ⟨octets, left, added, encoded, wrote, content, names⟩
  · constructor
    · constructor
      · rintro ⟨next, after, succeeds⟩
        cases fails.symm.trans succeeds
      · rintro ⟨octets, encoded⟩
        cases lacks.symm.trans encoded
    · intro next after succeeds
      cases fails.symm.trans succeeds
  · constructor
    · exact iff_of_true ⟨left, added, wrote⟩ ⟨octets, encoded⟩
    · intro next after succeeds
      cases wrote.symm.trans succeeds
      have still : added.find writer.path = .ok (location, .file id) := by
        rw [names.find]
        exact found
      refine ⟨octets, encoded, still, content, ?_⟩
      intro same units
      have resolves : reader.resolver.defaultEncoding = writer.settings.defaultEncoding :=
        sameDefault
      have reads := Session.run_readAll_of_file (samePath ▸ found)
      have readsAfter := Session.run_readAll_of_file (samePath ▸ still)
      refine ⟨reader.resolver.text held, congrArg Prod.fst reads, ?_⟩
      rw [readsAfter, content, Resolver.text_append_of_encode reader.resolver
        (resolves ▸ encoded) same (resolves ▸ units)]

theorem FileSystem.wellFormed_holding (name : String) (octets : Octets) :
    (holding name octets).WellFormed := by
  intro entry member id leads
  cases List.mem_singleton.mp member
  cases leads
  exact Nat.zero_lt_one

/-- A file that ends within a character of three octets. -/
theorem append_extends_text_torn :
    let files := FileSystem.holding "a" [0xEF, 0xBB, 0xBF, 0x61, 0xE2, 0x82]
    let writer := Session.new "a" default .silent
    let run := (Session.appendText "é").run writer files
    files.WellFormed ∧ files.find "a" = .ok (.ofNames ["a"], .file 0) ∧
      run = (.ok (), run.2.1, run.2.2) ∧
      run.2.2.content 0 = [0xEF, 0xBB, 0xBF, 0x61, 0xE2, 0x82, 0xC3, 0xA9] ∧
      ∃ before, (Session.readAll.run writer files).1 = .ok before ∧
        (Session.readAll.run writer run.2.2).1 = .ok (before ++ "é") := by
  intro files writer run
  have wellFormed : files.WellFormed := wellFormed_holding "a" _
  have found : files.find writer.path = .ok (.ofNames ["a"], .file 0) :=
    show files.find "a" = _ from rfl
  have wrote : run = (.ok (), run.2.1, run.2.2) := by decide +kernel
  have samePath : writer.path = writer.path := rfl
  obtain ⟨-, appends⟩ := append_extends_text wellFormed found samePath rfl "é"
  obtain ⟨octets, encoded, -, content, extended⟩ := appends _ _ wrote
  cases encoded
  have same : Signature.detect (files.content 0 ++ [0xC3, 0xA9]) =
      Signature.detect (files.content 0) := rfl
  exact ⟨wellFormed, found, wrote, content, extended same (by decide +kernel)⟩

end Bytemark
