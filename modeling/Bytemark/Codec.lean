/-
Module: Bytemark.Codec
Purpose: Encoding a text, and decoding octets that arrive in portions.
Trusted boundary: none
Main exports: Unencodable, Encoding.encodeChar, Encoding.encode, Encoding.step,
  Decoder, Decoder.feed, Decoder.finish, Encoding.decode
-/
import Bytemark.Encoding
import Bytemark.Text.Escape
import Bytemark.Codec.Utf8
import Bytemark.Codec.Utf16
import Bytemark.Codec.Utf32

namespace Bytemark

open Codec

/-!
A decoder carries the octets of the one character that is still unfinished,
and nothing else.  Feeding a portion is a fold over its octets, so two
portions and their concatenation give the same text (`Decoder.feed_append`);
the end of the stream turns a carried rest into one malformed piece.
-/

/-- A character that the encoding has no octets for. -/
structure Unencodable where
  char : Char
  encoding : Encoding
deriving Repr, Inhabited, DecidableEq

/-- The refusal names the character and the encoding. -/
def Unencodable.message (refusal : Unencodable) : String :=
  "character " ++ Text.quotedCharacter refusal.char ++
    " cannot be encoded as " ++ refusal.encoding.label

namespace Encoding

/-- The octets of one character; only ISO-8859-1 lacks characters. -/
def encodeChar : Encoding → Char → Option Octets
  | .utf8, c => some (Utf8.encode c)
  | .utf16 order, c => some (Utf16.encode order c)
  | .utf32 order, c => some (Utf32.encode order c)
  | .latin1, c => if c.toNat < 256 then some [UInt8.ofNat c.toNat] else none

/-- Encodes on behind `written`, which holds the octets before, last first. -/
def encodeFrom (encoding : Encoding) (written : Octets) :
    List Char → Except Unencodable Octets
  | [] => .ok written.reverse
  | c :: rest =>
      match encoding.encodeChar c with
      | some octets => encodeFrom encoding (octets.reverse ++ written) rest
      | none => .error ⟨c, encoding⟩

/-- The octets of a text, or its first character that has none. -/
def encode (encoding : Encoding) (text : String) : Except Unencodable Octets :=
  encoding.encodeFrom [] text.toList

/-- One octet after those carried. -/
def step : Encoding → Octets → UInt8 → Reading
  | .utf8 => Utf8.step
  | .utf16 order => Utf16.step order
  | .utf32 order => Utf32.step order
  | .latin1 => fun _ octet => .done octet.toNat

end Encoding

/-- A decoder between two portions of its stream. -/
structure Decoder where
  encoding : Encoding
  carry : Octets := []
deriving Repr, Inhabited, DecidableEq

namespace Decoder

/-- A decoder at the start of its stream. -/
def new (encoding : Encoding) : Decoder := { encoding }

/-- Folds one octet into the decoder and the pieces so far, last first. -/
def take (state : List Piece × Decoder) (octet : UInt8) : List Piece × Decoder :=
  let reading := state.2.encoding.step state.2.carry octet
  (reading.pieces.reverse ++ state.1, { state.2 with carry := reading.carry })

/-- The pieces that a portion completes. -/
def feed (decoder : Decoder) (portion : Octets) : List Piece × Decoder :=
  let state := portion.foldl take ([], decoder)
  (state.1.reverse, state.2)

/-- What the end of the stream leaves of an unfinished character. -/
def finish (decoder : Decoder) : List Piece × Decoder :=
  (if decoder.carry.isEmpty then [] else [.malformed], { decoder with carry := [] })

/-- Feeds a portion, the last of the stream if `last` is set. -/
def decode (decoder : Decoder) (portion : Octets) (last : Bool) : List Char × Decoder :=
  let (pieces, after) := decoder.feed portion
  let (tail, ended) := if last then after.finish else ([], after)
  ((pieces ++ tail).map Piece.toChar, ended)

theorem foldl_take (read : List Piece) (decoder : Decoder) (portion : Octets) :
    portion.foldl take (read, decoder) =
      ((portion.foldl take ([], decoder)).1 ++ read,
        (portion.foldl take ([], decoder)).2) := by
  induction portion generalizing read decoder with
  | nil => rfl
  | cons octet rest inductionHypothesis =>
      simp only [List.foldl_cons]
      rw [show take (read, decoder) octet =
          ((take ([], decoder) octet).1 ++ read, (take ([], decoder) octet).2) by
        simp [take]]
      rw [inductionHypothesis, inductionHypothesis (take ([], decoder) octet).1]
      simp [List.append_assoc]

@[simp] theorem feed_nil (decoder : Decoder) : decoder.feed [] = ([], decoder) := rfl

theorem feed_cons (decoder : Decoder) (octet : UInt8) (rest : Octets) :
    decoder.feed (octet :: rest) =
      let reading := decoder.encoding.step decoder.carry octet
      let after := ({ decoder with carry := reading.carry } : Decoder).feed rest
      (reading.pieces ++ after.1, after.2) := by
  simp only [feed, List.foldl_cons, take, List.append_nil]
  rw [foldl_take]
  simp

/-- Portions may be joined before they are fed. -/
theorem feed_append (decoder : Decoder) (first second : Octets) :
    decoder.feed (first ++ second) =
      ((decoder.feed first).1 ++ ((decoder.feed first).2.feed second).1,
        ((decoder.feed first).2.feed second).2) := by
  induction first generalizing decoder with
  | nil => simp
  | cons octet rest inductionHypothesis =>
      simp only [List.cons_append, feed_cons, inductionHypothesis, List.append_assoc]

/-- Feeding never changes the encoding. -/
@[simp] theorem feed_encoding (decoder : Decoder) (portion : Octets) :
    (decoder.feed portion).2.encoding = decoder.encoding := by
  induction portion generalizing decoder with
  | nil => rfl
  | cons octet rest inductionHypothesis => rw [feed_cons]; exact inductionHypothesis _

end Decoder

/-- The text of a whole run of octets: malformed sequences are replaced, and a
signature is text like any other. -/
def Encoding.decode (encoding : Encoding) (octets : Octets) : String :=
  String.ofList ((Decoder.new encoding).decode octets true).1

end Bytemark
