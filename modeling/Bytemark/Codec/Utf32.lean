/-
Module: Bytemark.Codec.Utf32
Purpose: UTF-32 in either octet order, one octet at a time.
Trusted boundary: none
Main exports: Utf32.encode, Utf32.step
-/
import Bytemark.Encoding
import Bytemark.Codec.Piece

namespace Bytemark.Codec.Utf32

/-- The number that four octets write. -/
def codeOf (order : ByteOrder) (a b c d : UInt8) : Nat :=
  match order with
  | .big => a.toNat * 16777216 + b.toNat * 65536 + c.toNat * 256 + d.toNat
  | .little => d.toNat * 16777216 + c.toNat * 65536 + b.toNat * 256 + a.toNat

/-- The octets of a character. -/
def encode (order : ByteOrder) (c : Char) : Octets :=
  let code := c.toNat
  let high := [UInt8.ofNat (code / 16777216), UInt8.ofNat (code / 65536 % 256)]
  let low := [UInt8.ofNat (code / 256 % 256), UInt8.ofNat (code % 256)]
  match order with
  | .big => high ++ low
  | .little => low.reverse ++ high.reverse

/-- Codes that name a character: no surrogate, and none above U+10FFFF. -/
def isScalar (code : Nat) : Bool :=
  code < 0xD800 || (0xDFFF < code && code < 0x110000)

/-- One octet after those carried. -/
def step (order : ByteOrder) (carry : Octets) (octet : UInt8) : Reading :=
  match carry with
  | [] => .wait [octet]
  | [a] => .wait [a, octet]
  | [a, b] => .wait [a, b, octet]
  | a :: b :: c :: _ =>
      let code := codeOf order a b c octet
      if isScalar code then .done code else .reject

end Bytemark.Codec.Utf32
