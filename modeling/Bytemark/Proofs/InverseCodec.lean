/-
Module: Bytemark.Proofs.InverseCodec
Purpose: An encoding and its decoder undo each other, malformed octets apart.
Trusted boundary: none
Main exports: Encoding.encodeChar_eq_none_iff, Encoding.encode_eq_error_iff,
  Decoder.encodeFrom_of_feed, encode_decode_inverse
-/
import Bytemark.Proofs.CarriedOctets

namespace Bytemark

open Codec

/-!
One direction is that a decoder reads what its encoding writes.  For the other
one, a decoder is followed over any octets: as long as it finds no malformed
sequence, what it has read was written by the encoding, octet for octet, and
what it carries is all that is missing.  A malformed sequence always leaves an
U+FFFD behind, so a text without one shows that there was none.
-/

namespace Encoding

/-- Only ISO-8859-1 lacks characters, and it lacks those above U+00FF. -/
theorem encodeChar_eq_none_iff (encoding : Encoding) (c : Char) :
    encoding.encodeChar c = none ↔ encoding = .latin1 ∧ 0xFF < c.toNat := by
  cases encoding with
  | utf8 => simp [encodeChar]
  | utf16 order => simp [encodeChar]
  | utf32 order => simp [encodeChar]
  | latin1 =>
      simp only [encodeChar]
      split
      · simp
        omega
      · simp
        omega

/-- A refusal names the first character that the encoding lacks. -/
theorem encodeFrom_eq_error_iff {encoding : Encoding} {text : List Char}
    {refusal : Unencodable} :
    encoding.encodeFrom [] text = .error refusal ↔
      text.find? (fun c => (encoding.encodeChar c).isNone) = some refusal.char ∧
        refusal.encoding = encoding := by
  induction text with
  | nil => simp [encodeFrom]
  | cons c rest inductionHypothesis =>
      rw [encodeFrom_cons, List.find?_cons]
      cases encoding.encodeChar c with
      | none =>
          rcases refusal with ⟨lacked, by'⟩
          simp [eq_comm]
      | some octets =>
          simp only [Option.isNone_some]
          rw [← inductionHypothesis]
          cases encoding.encodeFrom [] rest <;> simp [Except.map]

/-- The texts that are refused, and the character that each refusal names. -/
theorem encode_eq_error_iff {encoding : Encoding} {text : String} {refusal : Unencodable} :
    encoding.encode text = .error refusal ↔
      encoding = .latin1 ∧ refusal.encoding = .latin1 ∧
        text.toList.find? (fun c => 0xFF < c.toNat) = some refusal.char := by
  rw [encode, encodeFrom_eq_error_iff]
  by_cases latin : encoding = .latin1
  · subst latin
    have lacks : (fun c => (Encoding.latin1.encodeChar c).isNone) =
        fun c : Char => decide (0xFF < c.toNat) := by
      funext c
      rw [Bool.eq_iff_iff, Option.isNone_iff_eq_none, encodeChar_eq_none_iff]
      simp
    rw [lacks]
    simp [and_comm]
  · have nothing : text.toList.find? (fun c => (encoding.encodeChar c).isNone) = none := by
      rw [List.find?_eq_none]
      intro c _ lacked
      rw [Option.isNone_iff_eq_none, encodeChar_eq_none_iff] at lacked
      exact latin lacked.1
    rw [nothing]
    simp [latin]

end Encoding

namespace Decoder

/-- What was read without a malformed sequence was written by the encoding, up
to what is still carried. -/
theorem encodeFrom_of_feed {decoder : Decoder} (sound : decoder.Sound) {octets : Octets}
    (plain : Piece.malformed ∉ (decoder.feed octets).1) :
    ∃ text written, (decoder.feed octets).1 = text.map Piece.char ∧
      decoder.encoding.encodeFrom [] text = .ok written ∧
      decoder.carry ++ octets = written ++ (decoder.feed octets).2.carry := by
  induction octets generalizing decoder with
  | nil => exact ⟨[], [], rfl, rfl, by simp⟩
  | cons octet rest inductionHypothesis =>
      have turn := Encoding.turn_step sound octet
      rw [feed_cons] at plain ⊢
      dsimp only at plain ⊢
      generalize decoder.encoding.step decoder.carry octet = reading at turn plain ⊢
      rw [List.mem_append, not_or] at plain
      have next : ({ decoder with carry := reading.carry } : Decoder).Sound := turn.carried
      obtain ⟨text, written, pieces, encoded, whole⟩ := inductionHypothesis next plain.2
      dsimp only at pieces encoded whole
      -- An octet that is carried goes over from the portion to the carry, so that
      -- the two together stay what they are.
      cases turn with
      | waits carried =>
          refine ⟨text, written, pieces, encoded, ?_⟩
          rw [← whole, List.append_assoc, List.singleton_append]
      | @completes c character =>
          refine ⟨c :: text, (decoder.carry ++ [octet]) ++ written, ?_, ?_, ?_⟩
          · rw [pieces]
            rfl
          · rw [Encoding.encodeFrom_cons, character, encoded]
            rfl
          · rw [List.append_assoc _ written, ← whole]
            simp
      | replaces carried suffix units => exact absurd List.mem_cons_self plain.1

end Decoder

/-- Octets whose text has no U+FFFD are those that the text is encoded as. -/
theorem Encoding.encode_decode_of_plain {encoding : Encoding} {octets : Octets}
    (plain : replacement ∉ (encoding.decode octets).toList) :
    encoding.encode (encoding.decode octets) = .ok octets := by
  have read := encoding.toList_decode octets
  rw [read, List.map_append, List.mem_append, not_or] at plain
  have noMalformed : Piece.malformed ∉ ((Decoder.new encoding).feed octets).1 := fun member =>
    plain.1 (List.mem_map_of_mem (f := Piece.toChar) member)
  obtain ⟨text, written, pieces, encoded, whole⟩ :=
    Decoder.encodeFrom_of_feed (Decoder.sound_new encoding) noMalformed
  change encoding.encodeFrom [] text = _ at encoded
  change octets = _ at whole
  have nothing : ((Decoder.new encoding).feed octets).2.carry = [] := by
    cases carried : ((Decoder.new encoding).feed octets).2.carry with
    | nil => rfl
    | cons octet rest =>
        apply absurd _ plain.2
        simp [Decoder.finish, carried, Piece.toChar]
  have ended : ((Decoder.new encoding).feed octets).2.finish.1 = [] := by
    simp [Decoder.finish, nothing]
  rw [pieces, ended, List.append_nil, toChar_map_char] at read
  rw [nothing, List.append_nil] at whole
  rw [encode, read, encoded, whole]

/-- Encoding is refused exactly for a text in ISO-8859-1 with a character above
U+00FF, and the refusal names the first of them; octets that a text was encoded
as are decoded to that text; and octets that are decoded to a text without U+FFFD
are those that the text is encoded as. -/
theorem encode_decode_inverse (encoding : Encoding) :
    (∀ text, (∃ refusal, encoding.encode text = .error refusal) ↔
      encoding = .latin1 ∧ ∃ c ∈ text.toList, 0xFF < c.toNat) ∧
    (∀ text refusal, encoding.encode text = .error refusal →
      refusal.encoding = encoding ∧
        text.toList.find? (fun c => 0xFF < c.toNat) = some refusal.char) ∧
    (∀ text octets, encoding.encode text = .ok octets → encoding.decode octets = text) ∧
    (∀ octets, replacement ∉ (encoding.decode octets).toList →
      encoding.encode (encoding.decode octets) = .ok octets) := by
  refine ⟨?_, ?_, fun _ _ => Encoding.decode_of_encode, fun _ => Encoding.encode_decode_of_plain⟩
  · intro text
    constructor
    · rintro ⟨refusal, refused⟩
      obtain ⟨latin, -, first⟩ := Encoding.encode_eq_error_iff.mp refused
      have above := List.find?_some first
      exact ⟨latin, refusal.char, List.mem_of_find?_eq_some first, by simpa using above⟩
    · rintro ⟨rfl, c, member, above⟩
      cases first : text.toList.find? (fun c => decide (0xFF < c.toNat)) with
      | none =>
          have below := List.find?_eq_none.mp first c member
          simp [above] at below
      | some lacked => exact ⟨⟨lacked, .latin1⟩, Encoding.encode_eq_error_iff.mpr ⟨rfl, rfl, first⟩⟩
  · intro text refusal refused
    obtain ⟨rfl, same, first⟩ := Encoding.encode_eq_error_iff.mp refused
    exact ⟨same, first⟩

/-- A text that ISO-8859-1 refuses and UTF-8 writes, and a surrogate pair of UTF-16. -/
theorem encode_decode_inverse_euro :
    let octets : Octets := [0xC3, 0xA4, 0xE2, 0x82, 0xAC, 0xF0, 0x9D, 0x84, 0x9E]
    let pair : Octets := [0x34, 0xD8, 0x1E, 0xDD]
    (Encoding.latin1.encode "ä€𝄞" = .error ⟨'€', .latin1⟩ ∧
        "ä€𝄞".toList.find? (fun c => 0xFF < c.toNat) = some '€') ∧
      (Encoding.utf8.encode "ä€𝄞" = .ok octets ∧ Encoding.utf8.decode octets = "ä€𝄞") ∧
      replacement ∉ ((Encoding.utf16 .little).decode pair).toList ∧
        (Encoding.utf16 .little).encode ((Encoding.utf16 .little).decode pair) = .ok pair := by
  intro octets pair
  have refused : Encoding.latin1.encode "ä€𝄞" = .error ⟨'€', .latin1⟩ := rfl
  have encoded : Encoding.utf8.encode "ä€𝄞" = .ok octets := rfl
  have plain : replacement ∉ ((Encoding.utf16 .little).decode pair).toList := by decide +kernel
  obtain ⟨-, first, -, -⟩ := encode_decode_inverse .latin1
  obtain ⟨-, -, decoded, -⟩ := encode_decode_inverse .utf8
  obtain ⟨-, -, -, again⟩ := encode_decode_inverse (.utf16 .little)
  exact ⟨⟨refused, (first _ _ refused).2⟩, ⟨encoded, decoded _ _ encoded⟩, plain, again _ plain⟩

end Bytemark
