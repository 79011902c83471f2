/-
Module: Bytemark.Encoding
Purpose: The six text encodings and their canonical labels.
Trusted boundary: none
Main exports: ByteOrder, Encoding, Encoding.all, Encoding.label, Encoding.unitSize
-/

namespace Bytemark

/-!
An encoding is a way of writing characters as octets.  The two wide families
come in two octet orders, so the order is a parameter of the constructor and
not part of its name; a fact about UTF-16 or UTF-32 is then stated once.
-/

/-- The order in which the octets of one code unit are written. -/
inductive ByteOrder where
  | big
  | little
deriving Repr, Inhabited, DecidableEq

/-- The encodings a text file may be written in. -/
inductive Encoding where
  | utf8
  | utf16 (order : ByteOrder)
  | utf32 (order : ByteOrder)
  | latin1
deriving Repr, DecidableEq

namespace Encoding

/-- UTF-8 is what a file is taken to be when nothing else is known. -/
instance : Inhabited Encoding := ⟨.utf8⟩

/-- Every encoding, in the order in which they are listed to a user. -/
def all : List Encoding :=
  [.utf8, .utf16 .big, .utf16 .little, .utf32 .big, .utf32 .little, .latin1]

theorem mem_all (encoding : Encoding) : encoding ∈ all := by
  cases encoding with
  | utf8 => simp [all]
  | utf16 order => cases order <;> simp [all]
  | utf32 order => cases order <;> simp [all]
  | latin1 => simp [all]

/-- The canonical label, the one spelling that is ever printed. -/
def label : Encoding → String
  | .utf8 => "UTF-8"
  | .utf16 .big => "UTF-16BE"
  | .utf16 .little => "UTF-16LE"
  | .utf32 .big => "UTF-32BE"
  | .utf32 .little => "UTF-32LE"
  | .latin1 => "ISO-8859-1"

/-- Octets in one code unit: the smallest step at which text can end. -/
def unitSize : Encoding → Nat
  | .utf8 | .latin1 => 1
  | .utf16 _ => 2
  | .utf32 _ => 4

end Encoding

end Bytemark
