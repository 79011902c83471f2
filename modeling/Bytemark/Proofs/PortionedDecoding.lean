/-
Module: Bytemark.Proofs.PortionedDecoding
Purpose: How octets are cut into portions does not show in their text.
Trusted boundary: none
Main exports: Decoder.decodeEach, Decoder.decodeEach_eq, decode_portions
-/
import Bytemark.Proofs.CarriedOctets

namespace Bytemark

open Codec

/-!
A decoder that is fed portions stands where one stands that was fed all of them
in one go.  So the text it has given so far is settled, whatever comes next; and
all that it holds back are the last octets, fewer than four, at which a new
decoder would have to begin.
-/

namespace Decoder

/-- Feeds portions one after the other, more being expected after each. -/
def decodeEach (decoder : Decoder) : List Octets → List Char × Decoder
  | [] => ([], decoder)
  | portion :: rest =>
      let (text, after) := decoder.decode portion false
      let (more, ended) := after.decodeEach rest
      (text ++ more, ended)

theorem decode_unfinished (decoder : Decoder) (portion : Octets) :
    decoder.decode portion false =
      ((decoder.feed portion).1.map Piece.toChar, (decoder.feed portion).2) := by
  simp [decode]

theorem decode_finished (decoder : Decoder) (portion : Octets) :
    decoder.decode portion true =
      (((decoder.feed portion).1 ++ (decoder.feed portion).2.finish.1).map Piece.toChar,
        (decoder.feed portion).2.finish.2) := rfl

/-- Portions that are fed one after the other are fed in one go. -/
theorem decodeEach_eq (decoder : Decoder) (portions : List Octets) :
    decoder.decodeEach portions =
      ((decoder.feed portions.flatten).1.map Piece.toChar,
        (decoder.feed portions.flatten).2) := by
  induction portions generalizing decoder with
  | nil => rfl
  | cons portion rest inductionHypothesis =>
      rw [decodeEach, decode_unfinished]
      dsimp only
      rw [inductionHypothesis, List.flatten_cons, feed_append, List.map_append]

end Decoder

/-- Octets that come in portions, however many and however short, are decoded like
all of them in one go, so what an encoding wrote is read back; the text so far is
the beginning of every text that the octets so far can become the beginning of;
and it lacks no more of it than the text of fewer than four last octets and of
what comes behind them. -/
theorem decode_portions (encoding : Encoding) (portions : List Octets) (last : Octets) :
    let fed := (Decoder.new encoding).decodeEach portions
    let text := fed.1 ++ (fed.2.decode last true).1
    String.ofList text = encoding.decode (portions.flatten ++ last) ∧
      (∀ written, encoding.encode written = .ok (portions.flatten ++ last) →
        String.ofList text = written) ∧
      (∀ more, fed.1 <+: (encoding.decode (portions.flatten ++ more)).toList) ∧
      ∃ held, held <:+ portions.flatten ∧ held.length < 4 ∧
        ∀ more, (encoding.decode (portions.flatten ++ more)).toList =
          fed.1 ++ (encoding.decode (held ++ more)).toList := by
  intro fed text
  have whole : String.ofList text = encoding.decode (portions.flatten ++ last) := by
    rw [← String.toList_inj, String.toList_ofList, Encoding.toList_decode, Decoder.feed_append]
    simp only [text, fed, Decoder.decodeEach_eq, Decoder.decode_finished, List.map_append,
      List.append_assoc]
  obtain ⟨pieces, held, reached, carried, suffix, -⟩ :=
    Decoder.feed_new encoding portions.flatten
  -- A new decoder that reads what is carried stands where the portions have led.
  have goesOn (more : Octets) : (encoding.decode (portions.flatten ++ more)).toList =
      fed.1 ++ (encoding.decode (held ++ more)).toList := by
    simp only [fed, Decoder.decodeEach_eq, Encoding.toList_decode, Decoder.feed_append,
      Decoder.feed_carried carried, reached, List.map_append, List.nil_append, List.append_assoc]
  refine ⟨whole, ?_, ?_, held, suffix, Encoding.length_lt_of_carried carried, goesOn⟩
  · intro written encoded
    exact whole.trans (Encoding.decode_of_encode encoded)
  · intro more
    exact ⟨_, (goesOn more).symm⟩

/-- A surrogate pair that is torn apart, with an empty portion in between. -/
theorem decode_portions_torn :
    let fed := (Decoder.new (.utf16 .big)).decodeEach [[0xD8], [], [0x3C, 0xDF]]
    (Encoding.utf16 .big).encode "🌍" =
        .ok ([[0xD8], [], [0x3C, 0xDF]].flatten ++ [0x0D] : Octets) ∧
      String.ofList (fed.1 ++ (fed.2.decode [0x0D] true).1) = "🌍" := by
  intro fed
  have encoded : (Encoding.utf16 .big).encode "🌍" =
      .ok ([[0xD8], [], [0x3C, 0xDF]].flatten ++ [0x0D] : Octets) := rfl
  obtain ⟨-, again, -⟩ := decode_portions (.utf16 .big) [[0xD8], [], [0x3C, 0xDF]] [0x0D]
  exact ⟨encoded, again _ encoded⟩

end Bytemark
