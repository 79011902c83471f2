/-
Module: Bytemark.Stream.TextStream
Purpose: The decoded text of a stream, handed out as UTF-8.
Trusted boundary: none
Main exports: TextStream, TextStream.fill, TextStream.advance, TextStream.consume,
  TextStream.consume_cases, TextStream.consume_of_within, TextStream.read, TextStream.drain
-/
import Bytemark.Codec
import Bytemark.Codec.Length
import Bytemark.Stream.Buffered
import Bytemark.Stream.Pushback
import Bytemark.Stream.Window

namespace Bytemark

open Codec

/-!
A text stream reads a block of octets when its text is used up, decodes it,
and hands out the text as UTF-8.  Interrupted reads are repeated and never
show; any other failure shows once and costs no octet.  The end of the stream
is remembered: the stream is not read again after it.
-/

/-- Octets asked of the stream at a time. -/
def blockSize : Nat := 8192

/-- The decoded text of a stream, and how much of it was used. -/
structure TextStream where
  inner : Pushback
  decoder : Decoder
  window : Window := .empty
  atEnd : Bool := false
deriving Repr, DecidableEq

namespace TextStream

/-- The text of a stream that stands on its first octet of content. -/
def new (inner : Pushback) (encoding : Encoding) : TextStream :=
  { inner, decoder := Decoder.new encoding }

instance : Inhabited TextStream := ⟨new default default⟩

/-- The encoding that is decoded. -/
def encoding (text : TextStream) : Encoding := text.decoder.encoding

/-- Text that is ready. -/
def ready (text : TextStream) : Octets := text.window.ready

/-- Whether there is text that was not used. -/
def isWaiting (text : TextStream) : Bool := text.window.isWaiting

/-- The stream after a read that delivered nothing to decode. -/
def emptied (text : TextStream) (inner : Pushback) : TextStream :=
  { text with inner, window := .empty }

/-- A block of octets has a short text. -/
theorem length_text_of_block (decoder : Decoder) {block : Octets}
    (bounded : block.length ≤ blockSize) :
    (utf8Text (decoder.feed block).1).length < UInt64.size := by
  have pieces := length_feed_le decoder block
  have octets := length_utf8Text_le (decoder.feed block).1
  simp only [blockSize] at bounded
  rw [UInt64.size]
  omega

/-- The stream after a block of octets. -/
def refilled (text : TextStream) (inner : Pushback) (block : Octets)
    (bounded : block.length ≤ blockSize) : TextStream :=
  { text with
    inner
    decoder := (text.decoder.feed block).2
    window := .ofBlock (utf8Text (text.decoder.feed block).1)
      (length_text_of_block text.decoder bounded) }

/-- The end of a stream has a short text. -/
theorem length_text_of_finish (decoder : Decoder) :
    (utf8Text decoder.finish.1).length < UInt64.size := by
  have octets := length_utf8Text_le decoder.finish.1
  have pieces := length_finish_le decoder
  rw [UInt64.size]
  omega

/-- The stream after its end was seen. -/
def ended (text : TextStream) (inner : Pushback) : TextStream :=
  { text with
    inner
    decoder := text.decoder.finish.2
    window := .ofBlock (utf8Text text.decoder.finish.1) (length_text_of_finish text.decoder)
    atEnd := true }

/-- The text that is ready.  When there is none, blocks are read until one of
them completes a character or the stream ends. -/
def fill (text : TextStream) : Except IoError Octets × TextStream :=
  if text.isWaiting || text.atEnd then (.ok text.ready, text)
  else
    match reading : text.inner.read blockSize with
    | (.ok [], after) => (.ok (text.ended after).ready, text.ended after)
    | (.ok (octet :: octets), after) =>
        have := Pushback.weight_lt_of_read reading (by simp)
        fill (text.refilled after (octet :: octets) (Pushback.length_le_of_read reading))
    | (.error .interrupted, after) =>
        have := Pushback.weight_lt_of_read_error reading
        fill (text.emptied after)
    | (.error cause, after) => (.error cause, text.emptied after)
termination_by text.inner.weight

/-- The stream behind an amount of its text, which is at most all that is ready. -/
def advance (text : TextStream) (amount : Nat) : TextStream :=
  { text with window := text.window.advance amount }

@[simp] theorem ready_advance (text : TextStream) (amount : Nat) :
    (text.advance amount).ready = text.ready.drop amount :=
  Window.ready_advance ..

/-- Marks text as used.  A sum that is too large leaves the stream as it was. -/
def consume (text : TextStream) (amount : Nat) : Except Panic TextStream :=
  (text.window.use amount).map fun window => { text with window }

/-- The stream moves on if the sum is a 64-bit number, and the call panics if it is none. -/
theorem consume_cases (text : TextStream) (amount : Nat) :
    (text.window.position + amount < UInt64.size ∧
        text.consume amount = .ok (text.advance amount)) ∨
      (UInt64.size ≤ text.window.position + amount ∧
        text.consume amount = .error .overflow) := by
  unfold consume Window.use
  split
  · rename_i sum
    exact .inl ⟨sum, rfl⟩
  · rename_i sum
    exact .inr ⟨Nat.le_of_not_lt sum, rfl⟩

/-- One read into a buffer of `size` octets. -/
def read (text : TextStream) (size : Nat) : Except IoError Octets × TextStream :=
  match text.fill with
  | (.ok ready, after) => (.ok (ready.take size), after.advance (ready.take size).length)
  | (.error cause, after) => (.error cause, after)

/-- A bound on the text that can still be handed out: an octet completes at
most two pieces of at most four octets each, and so does the end. -/
def weight (text : TextStream) : Nat :=
  8 * text.inner.weight + 8 * (!text.atEnd).toNat + text.ready.length

/-- What `fill` hands out is what the stream then has ready. -/
theorem ready_of_fill {text after : TextStream} {ready : Octets}
    (filled : text.fill = (.ok ready, after)) : ready = after.ready := by
  fun_induction fill text with
  | case1 text waiting =>
      cases filled
      rfl
  | case2 text waiting after reading =>
      cases filled
      rfl
  | case3 text waiting octet octets after reading lighter inductionHypothesis =>
      exact inductionHypothesis filled
  | case4 text waiting after reading lighter inductionHypothesis =>
      exact inductionHypothesis filled
  | case5 text waiting cause after reading => cases filled

/-- The text of a block weighs no more than the block did. -/
theorem weight_refilled_le {text : TextStream} {after : Pushback} {block : Octets}
    (reading : text.inner.read blockSize = (.ok block, after))
    (bounded : block.length ≤ blockSize) :
    (text.refilled after block bounded).weight ≤ text.weight := by
  have lighter := Pushback.weight_add_length_le_of_read reading
  have pieces := length_feed_le text.decoder block
  have octets := length_utf8Text_le (text.decoder.feed block).1
  simp only [weight, refilled, ready, Window.ready_ofBlock]
  omega

/-- The text left over at the end weighs no more than the end did. -/
theorem weight_ended_le {text : TextStream} {after : Pushback} {block : Octets}
    (reading : text.inner.read blockSize = (.ok block, after)) (fresh : text.atEnd = false) :
    (text.ended after).weight ≤ text.weight := by
  have lighter := Pushback.weight_add_length_le_of_read reading
  have octets := length_utf8Text_le text.decoder.finish.1
  have pieces := length_finish_le text.decoder
  simp only [weight, ended, ready, Window.ready_ofBlock, fresh, Bool.not_true, Bool.not_false,
    Bool.toNat_true, Bool.toNat_false]
  omega

/-- Filling makes no stream heavier. -/
theorem weight_fill_le {text after : TextStream} {ready : Octets}
    (filled : text.fill = (.ok ready, after)) : after.weight ≤ text.weight := by
  fun_induction fill text with
  | case1 text waiting =>
      cases filled
      exact Nat.le_refl _
  | case2 text waiting inner reading =>
      cases filled
      have fresh : text.atEnd = false := by
        simp only [Bool.or_eq_true, not_or, Bool.not_eq_true] at waiting
        exact waiting.2
      exact weight_ended_le reading fresh
  | case3 text waiting octet octets inner reading lighter inductionHypothesis =>
      exact Nat.le_trans (inductionHypothesis filled) (weight_refilled_le reading _)
  | case4 text waiting inner reading lighter inductionHypothesis =>
      refine Nat.le_trans (inductionHypothesis filled) ?_
      have none : (text.emptied inner).ready.length = 0 := rfl
      have inside : (text.emptied inner).inner.weight = inner.weight := rfl
      have same : (text.emptied inner).atEnd = text.atEnd := rfl
      simp only [weight, none, inside, same]
      omega
  | case5 text waiting cause after reading => cases filled

theorem weight_advance_lt {text after : TextStream} {ready : Octets} {amount : Nat}
    (filled : text.fill = (.ok ready, after)) (positive : 0 < amount)
    (within : amount ≤ ready.length) : (after.advance amount).weight < text.weight := by
  have bound := weight_fill_le filled
  rw [ready_of_fill filled] at within
  have shorter : (after.advance amount).ready.length + amount = after.ready.length :=
    Window.length_ready_advance within
  simp only [weight] at *
  have inner : (after.advance amount).inner = after.inner := rfl
  have atEnd : (after.advance amount).atEnd = after.atEnd := rfl
  rw [inner, atEnd]
  omega

instance : Buffered TextStream where
  fill := fill
  consume := advance
  weight := weight
  weight_fill_le := weight_fill_le
  weight_consume_lt := weight_advance_lt

/-- Reads on to the end behind the text that was `seen`, last octet first. -/
def drainFrom (text : TextStream) (seen : Octets) : Drained × TextStream :=
  match filled : text.fill with
  | (.error cause, after) => (⟨seen.reverse, some cause⟩, after)
  | (.ok [], after) => (⟨seen.reverse, none⟩, after)
  | (.ok (octet :: octets), after) =>
      have := weight_advance_lt filled (by simp) (Nat.le_refl (octet :: octets).length)
      (after.advance (octet :: octets).length).drainFrom ((octet :: octets).reverse ++ seen)
termination_by text.weight

/-- Reads to the end, or to the first failure. -/
def drain (text : TextStream) : Drained × TextStream :=
  text.drainFrom []

end TextStream

end Bytemark
