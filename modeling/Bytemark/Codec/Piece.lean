/-
Module: Bytemark.Codec.Piece
Purpose: What a decoder reads off its octets.
Trusted boundary: none
Main exports: Octets, Codec.replacement, Codec.Piece, Codec.Piece.toChar, Codec.Reading
-/

namespace Bytemark

/-- A run of octets, first to last. -/
abbrev Octets := List UInt8

namespace Codec

/-- The character that stands for a sequence of octets that is no character. -/
def replacement : Char := Char.ofNat 0xFFFD

/-- A sequence of octets is a character or it is malformed.  The difference
outlives replacement: a well-formed U+FFFD in a text is a character. -/
inductive Piece where
  | char (c : Char)
  | malformed
deriving Repr, DecidableEq

instance : Inhabited Piece := ⟨.malformed⟩

/-- The character that a reader of the text gets to see. -/
def Piece.toChar : Piece → Char
  | .char c => c
  | .malformed => replacement

/-- The outcome of taking one octet: the pieces that are now complete, and the
octets of a character that is still unfinished. -/
structure Reading where
  pieces : List Piece
  carry : Octets
deriving Repr, Inhabited, DecidableEq

/-- The octet completes this character. -/
def Reading.done (code : Nat) : Reading := ⟨[.char (Char.ofNat code)], []⟩

/-- More octets are needed. -/
def Reading.wait (carry : Octets) : Reading := ⟨[], carry⟩

/-- The octets so far are no character. -/
def Reading.reject : Reading := ⟨[.malformed], []⟩

/-- What was carried is no character, and the octet starts afresh. -/
def Reading.afterMalformed (reading : Reading) : Reading :=
  ⟨.malformed :: reading.pieces, reading.carry⟩

end Codec

end Bytemark
