/-
Module: Bytemark.Codec.Utf8
Purpose: UTF-8, one octet at a time, and the strict reading of a whole text.
Trusted boundary: none
Main exports: Utf8.encode, Utf8.step, Utf8.Malformed, Utf8.decode
-/
import Bytemark.Codec.Piece

namespace Bytemark.Codec.Utf8

/-!
A malformed sequence is as long as it could still have become a character: an
octet that cannot follow what is carried ends the sequence before it and is
read anew.  The table of second octets excludes overlong forms, surrogates and
codes above U+10FFFF, so every sequence that is accepted names a character.
-/

/-- The octets of a character. -/
def encode (c : Char) : Octets :=
  let code := c.toNat
  if code < 0x80 then [UInt8.ofNat code]
  else if code < 0x800 then
    [UInt8.ofNat (0xC0 + code / 64), UInt8.ofNat (0x80 + code % 64)]
  else if code < 0x10000 then
    [UInt8.ofNat (0xE0 + code / 4096), UInt8.ofNat (0x80 + code / 64 % 64),
      UInt8.ofNat (0x80 + code % 64)]
  else
    [UInt8.ofNat (0xF0 + code / 262144), UInt8.ofNat (0x80 + code / 4096 % 64),
      UInt8.ofNat (0x80 + code / 64 % 64), UInt8.ofNat (0x80 + code % 64)]

/-- The octets of a text. -/
def encodeText (text : List Char) : Octets := text.flatMap encode

/-- An octet that continues a sequence, the second one apart. -/
def isTail (octet : UInt8) : Bool :=
  0x80 ≤ octet.toNat && octet.toNat ≤ 0xBF

/-- The smallest second octet after this first one. -/
def secondLow (first : UInt8) : Nat :=
  if first.toNat == 0xE0 then 0xA0 else if first.toNat == 0xF0 then 0x90 else 0x80

/-- The largest second octet after this first one. -/
def secondHigh (first : UInt8) : Nat :=
  if first.toNat == 0xED then 0x9F else if first.toNat == 0xF4 then 0x8F else 0xBF

/-- Whether the second octet may follow the first. -/
def isSecond (first octet : UInt8) : Bool :=
  secondLow first ≤ octet.toNat && octet.toNat ≤ secondHigh first

/-- An octet at which nothing is carried. -/
def start (octet : UInt8) : Reading :=
  if octet.toNat < 0x80 then .done octet.toNat
  else if 0xC2 ≤ octet.toNat && octet.toNat ≤ 0xF4 then .wait [octet]
  else .reject

/-- One octet after those carried. -/
def step (carry : Octets) (octet : UInt8) : Reading :=
  match carry with
  | [] => start octet
  | [a] =>
      if isSecond a octet then
        if a.toNat < 0xE0 then
          .done ((a.toNat - 0xC0) * 64 + (octet.toNat - 0x80))
        else .wait [a, octet]
      else (start octet).afterMalformed
  | [a, b] =>
      if isTail octet then
        if a.toNat < 0xF0 then
          .done ((a.toNat - 0xE0) * 4096 + (b.toNat - 0x80) * 64 + (octet.toNat - 0x80))
        else .wait [a, b, octet]
      else (start octet).afterMalformed
  | a :: b :: c :: _ =>
      if isTail octet then
        .done ((a.toNat - 0xF0) * 262144 + (b.toNat - 0x80) * 4096 +
          (c.toNat - 0x80) * 64 + (octet.toNat - 0x80))
      else (start octet).afterMalformed

/-- Where and how octets fail to be UTF-8. -/
inductive Malformed where
  /-- The `length` octets at `index` are the start of no character. -/
  | invalid (length index : Nat)
  /-- The text ends inside the character at `index`. -/
  | incomplete (index : Nat)
deriving Repr, Inhabited, DecidableEq

/-- The wording of the refusal. -/
def Malformed.message : Malformed → String
  | .invalid length index => s!"invalid utf-8 sequence of {length} bytes from index {index}"
  | .incomplete index => s!"incomplete utf-8 byte sequence from index {index}"

/-- Reads on from the character that starts at `index`, of which `carry` has
been seen; `read` holds the characters before it, last first. -/
def decodeFrom (index : Nat) (carry : Octets) (read : List Char) :
    Octets → Except Malformed (List Char)
  | [] => if carry.isEmpty then .ok read.reverse else .error (.incomplete index)
  | octet :: rest =>
      match step carry octet with
      | ⟨[.char c], []⟩ => decodeFrom (index + carry.length + 1) [] (c :: read) rest
      | ⟨[], unfinished⟩ => decodeFrom index unfinished read rest
      | _ => .error (.invalid (max carry.length 1) index)

/-- The text that these octets write, if they write one. -/
def decode (octets : Octets) : Except Malformed (List Char) :=
  decodeFrom 0 [] [] octets

end Bytemark.Codec.Utf8
