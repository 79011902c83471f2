/-
Module: Bytemark.Lines
Purpose: Line terminators, and the lines of a whole text.
Trusted boundary: none
Main exports: Terminator, Terminator.native, Lines.cut, Lines.terminator
-/
import Bytemark.Codec.Piece

namespace Bytemark

/-!
A line ends with LF, with CR, or with CR and LF together.  Cutting removes the
terminators; a terminator at the very end adds no line, and a last line may do
without one.  The cut is written once for octets and characters alike, since
both have their CR and LF.
-/

/-- The ways to end a line. -/
inductive Terminator where
  | lf
  | crlf
  | cr
deriving Repr, Inhabited, DecidableEq

namespace Terminator

/-- The terminator that written lines get. -/
def native : Terminator := .lf

/-- The characters of a terminator. -/
def text : Terminator → String
  | .lf => "\n"
  | .crlf => "\r\n"
  | .cr => "\r"

end Terminator

/-- Alphabets with the two characters that end lines. -/
class LineAlphabet (α : Type) [DecidableEq α] where
  lf : α
  cr : α
  lf_ne_cr : lf ≠ cr

instance : LineAlphabet Char where
  lf := '\n'
  cr := '\r'
  lf_ne_cr := by decide

instance : LineAlphabet UInt8 where
  lf := 10
  cr := 13
  lf_ne_cr := by decide

namespace Lines

variable {α : Type} [DecidableEq α] [LineAlphabet α]

open LineAlphabet

/-- Whether the element ends a line, alone or with others. -/
def isTerminator (a : α) : Bool := a == lf || a == cr

/-- Cuts on inside a line whose first elements are `line`, last first. -/
def cutFrom (line : List α) : List α → List (List α)
  | [] => if line.isEmpty then [] else [line.reverse]
  | [a] => if isTerminator a then [line.reverse] else [(a :: line).reverse]
  | a :: b :: rest =>
      if a == lf then line.reverse :: cutFrom [] (b :: rest)
      else if a == cr then
        if b == lf then line.reverse :: cutFrom [] rest
        else line.reverse :: cutFrom [] (b :: rest)
      else cutFrom (a :: line) (b :: rest)

/-- The lines of a text, without their terminators. -/
def cut (text : List α) : List (List α) := cutFrom [] text

/-- The elements of a terminator. -/
def terminator : Terminator → List α
  | .lf => [lf]
  | .crlf => [cr, lf]
  | .cr => [cr]

end Lines

end Bytemark
