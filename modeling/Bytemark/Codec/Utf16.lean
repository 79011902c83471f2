/-
Module: Bytemark.Codec.Utf16
Purpose: UTF-16 in either octet order, one octet at a time.
Trusted boundary: none
Main exports: Utf16.encode, Utf16.step
-/
import Bytemark.Encoding
import Bytemark.Codec.Piece

namespace Bytemark.Codec.Utf16

/-!
A code unit is a character of its own unless it is a surrogate.  A high and a
low surrogate in a row are one character; a surrogate without its partner is
malformed.  The carried octets are at most a high surrogate and the first half
of the next unit.
-/

/-- The octets of a code unit. -/
def unitOctets (order : ByteOrder) (unit : Nat) : Octets :=
  match order with
  | .big => [UInt8.ofNat (unit / 256), UInt8.ofNat (unit % 256)]
  | .little => [UInt8.ofNat (unit % 256), UInt8.ofNat (unit / 256)]

/-- The code unit that two octets write. -/
def unitOf (order : ByteOrder) (first second : UInt8) : Nat :=
  match order with
  | .big => first.toNat * 256 + second.toNat
  | .little => second.toNat * 256 + first.toNat

/-- Units that open a pair. -/
def isHigh (unit : Nat) : Bool := 0xD800 ≤ unit && unit ≤ 0xDBFF

/-- Units that close a pair. -/
def isLow (unit : Nat) : Bool := 0xDC00 ≤ unit && unit ≤ 0xDFFF

/-- The octets of a character. -/
def encode (order : ByteOrder) (c : Char) : Octets :=
  let code := c.toNat
  if code < 0x10000 then unitOctets order code
  else
    unitOctets order (0xD800 + (code - 0x10000) / 0x400) ++
      unitOctets order (0xDC00 + (code - 0x10000) % 0x400)

/-- The code that a pair of surrogates writes. -/
def pairCode (high low : Nat) : Nat :=
  0x10000 + (high - 0xD800) * 0x400 + (low - 0xDC00)

/-- A unit, written by the two octets, at which no surrogate is carried. -/
def start (order : ByteOrder) (first second : UInt8) : Reading :=
  let unit := unitOf order first second
  if isHigh unit then .wait [first, second]
  else if isLow unit then .reject
  else .done unit

/-- One octet after those carried. -/
def step (order : ByteOrder) (carry : Octets) (octet : UInt8) : Reading :=
  match carry with
  | [] => .wait [octet]
  | [a] => start order a octet
  | [a, b] => .wait [a, b, octet]
  | a :: b :: c :: _ =>
      let unit := unitOf order c octet
      if isLow unit then .done (pairCode (unitOf order a b) unit)
      else (start order c octet).afterMalformed

end Bytemark.Codec.Utf16
