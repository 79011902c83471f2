/-
Module: Bytemark.Signature
Purpose: Byte-order marks and their detection at the start of a stream.
Trusted boundary: none
Main exports: Signature, Signature.table, Signature.windowSize, Signature.detect,
  Encoding.signature, Encoding.signatureOctets
-/
import Bytemark.Encoding
import Bytemark.Codec.Piece

namespace Bytemark

/-- The octets that mark a stream as written in an encoding. -/
structure Signature where
  encoding : Encoding
  octets : Octets
deriving Repr, Inhabited, DecidableEq

namespace Signature

/-!
The mark of UTF-16LE begins the mark of UTF-32LE, so the table is ordered from
the long marks to the short ones and the first mark that fits is the longest.
ISO-8859-1 has no mark.
-/

/-- Every signature, longest first. -/
def table : List Signature :=
  [⟨.utf32 .little, [0xFF, 0xFE, 0x00, 0x00]⟩,
    ⟨.utf32 .big, [0x00, 0x00, 0xFE, 0xFF]⟩,
    ⟨.utf8, [0xEF, 0xBB, 0xBF]⟩,
    ⟨.utf16 .little, [0xFF, 0xFE]⟩,
    ⟨.utf16 .big, [0xFE, 0xFF]⟩]

/-- Octets that have to be seen before the longest signature is decided. -/
def windowSize : Nat := 4

theorem length_le_windowSize :
    ∀ signature ∈ table, signature.octets.length ≤ windowSize := by decide

/-- Whether the octets begin with the signature. -/
def marks (signature : Signature) (octets : Octets) : Bool :=
  signature.octets.isPrefixOf octets

/-- The signature that the octets begin with, the longest of those that do. -/
def detect (octets : Octets) : Option Signature :=
  table.find? fun signature => signature.marks octets

end Signature

/-- The signature of an encoding. -/
def Encoding.signature (encoding : Encoding) : Option Signature :=
  Signature.table.find? fun signature => signature.encoding == encoding

/-- The octets that open a new file in this encoding. -/
def Encoding.signatureOctets (encoding : Encoding) : Octets :=
  match encoding.signature with
  | some signature => signature.octets
  | none => []

end Bytemark
