/-
Module: Bytemark.Encoding.Label
Purpose: Reading an encoding from the label a user typed.
Trusted boundary: none
Main exports: Encoding.names, UnknownLabel, Label.isSeparator, Label.fold, Encoding.ofLabel
-/
import Bytemark.Encoding
import Bytemark.Text.Blank
import Bytemark.Text.Lowercase

namespace Bytemark

/-!
Labels are compared in a folded form: blanks at the ends, separators inside
and the difference of upper and lower case do not count.  Every canonical
label folds to one of the names of its encoding.
-/

/-- A label that names no encoding, kept as it was given. -/
structure UnknownLabel where
  label : String
deriving Repr, Inhabited, DecidableEq

/-- The refusal quotes the label. -/
def UnknownLabel.message (refusal : UnknownLabel) : String :=
  s!"unknown encoding label '{refusal.label}'"

namespace Label

/-- Separators may stand anywhere in a label and say nothing. -/
def isSeparator (c : Char) : Bool :=
  c == '-' || c == '_' || c == ' '

/-- The form in which labels are compared. -/
def fold (label : List Char) : List Char :=
  ((Text.trim label).filter fun c => !isSeparator c).flatMap Text.lowercase

end Label

namespace Encoding

/-- The folded names of an encoding. -/
def names : Encoding → List String
  | .utf8 => ["utf8"]
  | .utf16 .big => ["utf16be"]
  | .utf16 .little => ["utf16le"]
  | .utf32 .big => ["utf32be"]
  | .utf32 .little => ["utf32le"]
  | .latin1 => ["iso88591", "latin1", "l1"]

/-- The encoding with this label. -/
def ofLabel (label : String) : Except UnknownLabel Encoding :=
  let folded := String.ofList (Label.fold label.toList)
  match all.find? fun encoding => encoding.names.contains folded with
  | some encoding => .ok encoding
  | none => .error ⟨label⟩

/-- A refusal carries the label unchanged. -/
theorem label_of_ofLabel_eq_error {label : String} {refusal : UnknownLabel}
    (refused : ofLabel label = .error refusal) : refusal.label = label := by
  unfold ofLabel at refused
  simp only at refused
  split at refused
  · exact absurd refused (by simp)
  · cases refused
    rfl

end Encoding

end Bytemark
