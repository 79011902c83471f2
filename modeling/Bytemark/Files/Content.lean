/-
Module: Bytemark.Files.Content
Purpose: The octets of a file that grows piece by piece.
Trusted boundary: none
Main exports: Content, Content.octets, Content.ofOctets, Content.append, Content.overwrite,
  Content.octets_append, Content.octets_overwrite
-/
import Bytemark.Codec.Piece

namespace Bytemark

/-!
A file is mostly written from front to back, so its content is kept as the
pieces that were written, and its size beside them: a piece behind all others
costs no walk through what is there already.
-/

/-- The octets of a file. -/
structure Content where
  /-- The pieces that were written one behind the other, last first. -/
  pieces : List Octets
  size : Nat
  size_eq : size = pieces.flatten.length
deriving Repr, DecidableEq

namespace Content

/-- A content that was written at once. -/
def ofOctets (octets : Octets) : Content := ⟨[octets], octets.length, by simp⟩

/-- The content of a new file. -/
def empty : Content := ⟨[], 0, rfl⟩

instance : Inhabited Content := ⟨empty⟩

/-- All octets, first to last. -/
def octets (content : Content) : Octets :=
  match content.pieces with
  | [piece] => piece
  | pieces => pieces.reverse.flatten

/-- Writes behind the end. -/
def append (content : Content) (octets : Octets) : Content :=
  ⟨octets :: content.pieces, octets.length + content.size, by simp [content.size_eq]⟩

/-- Octets after others were written over them at an offset; a gap is filled
with zeros. -/
def splice (old : Octets) (offset : Nat) (octets : Octets) : Octets :=
  old.take offset ++ List.replicate (offset - old.length) 0 ++ octets ++
    old.drop (offset + octets.length)

/-- Writes at an offset. -/
def overwrite (content : Content) (offset : Nat) (octets : Octets) : Content :=
  if offset == content.size then content.append octets
  else ofOctets (splice content.octets offset octets)

theorem octets_eq (content : Content) : content.octets = content.pieces.reverse.flatten := by
  unfold octets
  split
  · rename_i piece single
    simp [single]
  · rfl

@[simp] theorem octets_ofOctets (octets : Octets) : (ofOctets octets).octets = octets := rfl

@[simp] theorem octets_empty : empty.octets = [] := rfl

theorem length_octets (content : Content) : content.octets.length = content.size := by
  rw [octets_eq, content.size_eq, List.length_flatten, List.length_flatten, List.map_reverse,
    List.sum_reverse]

@[simp] theorem octets_append (content : Content) (octets : Octets) :
    (content.append octets).octets = content.octets ++ octets := by
  simp [octets_eq, append]

@[simp] theorem octets_overwrite (content : Content) (offset : Nat) (octets : Octets) :
    (content.overwrite offset octets).octets = splice content.octets offset octets := by
  unfold overwrite
  split
  · rename_i behind
    rw [beq_iff_eq, ← length_octets] at behind
    subst behind
    simp [splice]
  · rfl

end Content

end Bytemark
