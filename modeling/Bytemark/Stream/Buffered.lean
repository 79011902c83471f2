/-
Module: Bytemark.Stream.Buffered
Purpose: Readers that hand out their buffer, and the plainest of them.
Trusted boundary: none
Main exports: Buffered, BlockReader, BlockReader.fill, BlockReader.consume, BlockReader.drain
-/
import Bytemark.Stream.Source

namespace Bytemark

/-!
A buffered reader shows the octets it has ready and is told how many of them
were used.  What its users rely on are two laws: filling the buffer takes the
reader no further from its end, and using some of what is ready brings it closer.
-/

/-- Readers whose buffer can be looked at before it is used up. -/
class Buffered (β : Type) where
  /-- The octets that are ready, fetched if there are none; none at the end. -/
  fill : β → Except IoError Octets × β
  /-- Marks the first octets of the buffer as used, no more than are ready. -/
  consume : β → Nat → β
  /-- A bound on the octets that can still be handed out. -/
  weight : β → Nat
  weight_fill_le : ∀ {reader after : β} {ready : Octets},
    fill reader = (.ok ready, after) → weight after ≤ weight reader
  weight_consume_lt : ∀ {reader after : β} {ready : Octets} {amount : Nat},
    fill reader = (.ok ready, after) → 0 < amount → amount ≤ ready.length →
      weight (consume after amount) < weight reader

/-- Reads a stream in blocks of a fixed capacity.  Failures of the stream are
passed on, interruptions included. -/
structure BlockReader where
  source : Source
  capacity : Nat
  ready : Octets := []
deriving Repr, Inhabited, DecidableEq

namespace BlockReader

/-- A bound on the octets that can still be handed out. -/
def weight (reader : BlockReader) : Nat :=
  reader.source.weight + reader.ready.length

/-- The octets that are ready, after one read of the stream if there were none. -/
def fill (reader : BlockReader) : Except IoError Octets × BlockReader :=
  if reader.ready.isEmpty then
    match reader.source.read reader.capacity with
    | (.ok octets, source) => (.ok octets, { reader with source, ready := octets })
    | (.error cause, source) => (.error cause, { reader with source })
  else (.ok reader.ready, reader)

/-- Marks the first octets of the buffer as used. -/
def consume (reader : BlockReader) (amount : Nat) : BlockReader :=
  { reader with ready := reader.ready.drop amount }

/-- Reads to the end, past the buffer. -/
def drain (reader : BlockReader) : Drained × BlockReader :=
  let (drained, source) := reader.source.drain
  (⟨reader.ready ++ drained.octets, drained.failure⟩, { reader with source, ready := [] })

theorem weight_fill_le {reader after : BlockReader} {ready : Octets}
    (filled : reader.fill = (.ok ready, after)) : after.weight ≤ reader.weight := by
  unfold fill at filled
  split at filled
  · cases reading : reader.source.read reader.capacity with
    | mk result source =>
        cases result with
        | error cause => simp [reading] at filled
        | ok octets =>
            simp only [reading] at filled
            cases filled
            have lighter := Source.weight_add_length_le_of_read reading
            simp only [weight]
            omega
  · cases filled
    exact Nat.le_refl _

theorem weight_consume_lt {reader after : BlockReader} {ready : Octets} {amount : Nat}
    (filled : reader.fill = (.ok ready, after)) (positive : 0 < amount)
    (within : amount ≤ ready.length) : (after.consume amount).weight < reader.weight := by
  unfold fill at filled
  split at filled
  · cases reading : reader.source.read reader.capacity with
    | mk result source =>
        cases result with
        | error cause => simp [reading] at filled
        | ok octets =>
            simp only [reading] at filled
            cases filled
            have lighter := Source.weight_add_length_le_of_read reading
            simp only [weight, consume, List.length_drop]
            omega
  · cases filled
    simp only [weight, consume, List.length_drop]
    omega

instance : Buffered BlockReader where
  fill := fill
  consume := consume
  weight := weight
  weight_fill_le := weight_fill_le
  weight_consume_lt := weight_consume_lt

end BlockReader

end Bytemark
