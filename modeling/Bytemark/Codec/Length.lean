/-
Module: Bytemark.Codec.Length
Purpose: How much text an octet can complete, and how long it is as UTF-8.
Trusted boundary: none
Main exports: Codec.utf8Text, Codec.length_utf8Text_le, Codec.length_step_le, Codec.length_feed_le
-/
import Bytemark.Codec

namespace Bytemark.Codec

/-- The UTF-8 form of decoded text. -/
def utf8Text (pieces : List Piece) : Octets :=
  pieces.flatMap fun piece => Utf8.encode piece.toChar

theorem length_utf8_encode_le (c : Char) : (Utf8.encode c).length ≤ 4 := by
  unfold Utf8.encode
  dsimp only
  split
  · simp
  · split
    · simp
    · split <;> simp

theorem length_utf8Text_le (pieces : List Piece) :
    (utf8Text pieces).length ≤ 4 * pieces.length := by
  induction pieces with
  | nil => simp [utf8Text]
  | cons piece rest inductionHypothesis =>
      have head := length_utf8_encode_le piece.toChar
      simp only [utf8Text, List.flatMap_cons, List.length_append, List.length_cons] at *
      omega

theorem length_utf8_start_le (octet : UInt8) : (Utf8.start octet).pieces.length ≤ 1 := by
  unfold Utf8.start
  split
  · simp [Reading.done]
  · split <;> simp [Reading.wait, Reading.reject]

theorem length_utf8_step_le (carry : Octets) (octet : UInt8) :
    (Utf8.step carry octet).pieces.length ≤ 2 := by
  have fresh := length_utf8_start_le octet
  unfold Utf8.step
  split
  · omega
  all_goals
    split
    · first
        | (split <;> simp [Reading.done, Reading.wait])
        | simp [Reading.done]
    · simp only [Reading.afterMalformed, List.length_cons]
      omega

theorem length_utf16_start_le (order : ByteOrder) (a b : UInt8) :
    (Utf16.start order a b).pieces.length ≤ 1 := by
  unfold Utf16.start
  dsimp only
  split
  · simp [Reading.wait]
  · split <;> simp [Reading.done, Reading.reject]

theorem length_utf16_step_le (order : ByteOrder) (carry : Octets) (octet : UInt8) :
    (Utf16.step order carry octet).pieces.length ≤ 2 := by
  unfold Utf16.step
  split
  · simp [Reading.wait]
  · exact Nat.le_succ_of_le (length_utf16_start_le _ _ _)
  · simp [Reading.wait]
  · rename_i a b c rest
    have fresh := length_utf16_start_le order c octet
    dsimp only
    split
    · simp [Reading.done]
    · simp only [Reading.afterMalformed, List.length_cons]
      omega

theorem length_utf32_step_le (order : ByteOrder) (carry : Octets) (octet : UInt8) :
    (Utf32.step order carry octet).pieces.length ≤ 2 := by
  unfold Utf32.step
  split
  · simp [Reading.wait]
  · simp [Reading.wait]
  · simp [Reading.wait]
  · dsimp only
    split <;> simp [Reading.done, Reading.reject]

/-- An octet completes at most two pieces: a malformed one and a character. -/
theorem length_step_le (encoding : Encoding) (carry : Octets) (octet : UInt8) :
    (encoding.step carry octet).pieces.length ≤ 2 := by
  cases encoding with
  | utf8 => exact length_utf8_step_le carry octet
  | utf16 order => exact length_utf16_step_le order carry octet
  | utf32 order => exact length_utf32_step_le order carry octet
  | latin1 => simp [Encoding.step, Reading.done]

theorem length_feed_le (decoder : Decoder) (portion : Octets) :
    (decoder.feed portion).1.length ≤ 2 * portion.length := by
  induction portion generalizing decoder with
  | nil => simp
  | cons octet rest inductionHypothesis =>
      have head := length_step_le decoder.encoding decoder.carry octet
      have tail := inductionHypothesis
        { decoder with carry := (decoder.encoding.step decoder.carry octet).carry }
      rw [Decoder.feed_cons]
      simp only [List.length_append, List.length_cons]
      omega

/-- The end of a stream leaves at most one malformed piece. -/
theorem length_finish_le (decoder : Decoder) : decoder.finish.1.length ≤ 1 := by
  unfold Decoder.finish
  dsimp only
  split <;> simp

end Bytemark.Codec
