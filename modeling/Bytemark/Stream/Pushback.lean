/-
Module: Bytemark.Stream.Pushback
Purpose: A stream that takes a few octets back.
Trusted boundary: none
Main exports: Slots, Slots.waiting, Slots.merge, Slots.advance, Pushback, Pushback.pending,
  Pushback.unread, Pushback.read, Pushback.read_cases, Pushback.unread_cases, Pushback.drain
-/
import Bytemark.Stream.Source

namespace Bytemark

/-!
Octets that are to be read again stand in a fixed number of slots, between two
positions.  Reading moves the first position on; putting octets back writes all
slots anew.  What stands outside the two positions is of no account, and a stream
is known by the octets between them (`Pushback.pending`).
-/

/-- A few octets in a fixed number of slots.  Those from `start` up to `stop` wait. -/
structure Slots where
  octets : Octets
  start : Nat
  stop : Nat
  length_octets : octets.length = Signature.windowSize
  start_le_stop : start ≤ stop
  stop_le_size : stop ≤ Signature.windowSize
deriving Repr, DecidableEq

namespace Slots

/-- Slots without an octet of account. -/
def blank : Octets := List.replicate Signature.windowSize 0

/-- Slots in which nothing waits. -/
def empty : Slots :=
  { octets := blank, start := 0, stop := 0
    length_octets := List.length_replicate
    start_le_stop := Nat.le_refl 0
    stop_le_size := Nat.zero_le _ }

instance : Inhabited Slots := ⟨empty⟩

/-- How many octets wait. -/
def count (slots : Slots) : Nat := slots.stop - slots.start

/-- The octets that wait. -/
def waiting (slots : Slots) : Octets := (slots.octets.drop slots.start).take slots.count

/-- The slots after octets were copied to a position. -/
def copyTo (octets : Octets) (position : Nat) (copied : Octets) : Octets :=
  octets.take position ++ copied ++ octets.drop (position + copied.length)

theorem length_copyTo {octets copied : Octets} {position : Nat}
    (fits : position + copied.length ≤ octets.length) :
    (copyTo octets position copied).length = octets.length := by
  simp only [copyTo, List.length_append, List.length_take, List.length_drop]
  omega

theorem length_waiting (slots : Slots) : slots.waiting.length = slots.count := by
  have size := slots.length_octets
  have bound := slots.stop_le_size
  rw [waiting, count, List.length_take, List.length_drop]
  omega

/-- Octets in the first slots, and those that waited behind them. -/
def merge (slots : Slots) (octets : Octets)
    (fits : slots.count + octets.length ≤ Signature.windowSize) : Slots :=
  { octets := copyTo (copyTo blank 0 octets) octets.length slots.waiting
    start := 0
    stop := octets.length + slots.count
    length_octets := by
      have size : (copyTo blank 0 octets).length = Signature.windowSize := by
        rw [length_copyTo] <;> rw [blank, List.length_replicate]
        omega
      rw [length_copyTo, size]
      rw [size, length_waiting]
      omega
    start_le_stop := Nat.zero_le _
    stop_le_size := by omega }

/-- The slots whose first octets were read. -/
def advance (slots : Slots) (amount : Nat) (within : amount ≤ slots.count) : Slots :=
  { slots with
    start := slots.start + amount
    start_le_stop := by
      have bound := slots.start_le_stop
      rw [count] at within
      omega }

/-- Reads as many of the octets that wait as there is room for. -/
def read (slots : Slots) (size : Nat) : Octets × Slots :=
  let amount := min slots.count size
  ((slots.octets.drop slots.start).take amount, slots.advance amount (Nat.min_le_left _ _))

@[simp] theorem waiting_empty : empty.waiting = [] := rfl

theorem waiting_merge (slots : Slots) (octets : Octets)
    (fits : slots.count + octets.length ≤ Signature.windowSize) :
    (slots.merge octets fits).waiting = octets ++ slots.waiting := by
  have length : (octets ++ slots.waiting).length = octets.length + slots.count := by
    rw [List.length_append, length_waiting]
  have front : (copyTo blank 0 octets).take octets.length = octets := by
    rw [copyTo, List.take_zero, List.nil_append, List.take_left]
  change (copyTo (copyTo blank 0 octets) octets.length slots.waiting).take
    (octets.length + slots.count) = _
  rw [copyTo, front]
  exact List.take_left' length

theorem waiting_advance (slots : Slots) (amount : Nat) (within : amount ≤ slots.count) :
    (slots.advance amount within).waiting = slots.waiting.drop amount := by
  rw [waiting, waiting, List.drop_take, List.drop_drop, count, count, Nat.sub_sub]
  rfl

theorem octets_read (slots : Slots) (size : Nat) :
    (slots.read size).1 = slots.waiting.take size := by
  rw [waiting, List.take_take, Nat.min_comm]
  rfl

theorem waiting_read (slots : Slots) (size : Nat) :
    (slots.read size).2.waiting = slots.waiting.drop size := by
  rw [read, waiting_advance]
  rcases Nat.le_total slots.count size with all | some
  · have length := slots.length_waiting
    rw [Nat.min_eq_left all, List.drop_eq_nil_of_le (Nat.le_of_eq length),
      List.drop_eq_nil_of_le (Nat.le_trans (Nat.le_of_eq length) all)]
  · rw [Nat.min_eq_right some]

theorem waiting_eq_nil_iff (slots : Slots) : slots.waiting = [] ↔ ¬ slots.start < slots.stop := by
  rw [← List.length_eq_zero_iff, length_waiting, count]
  omega

end Slots

/-- A stream and the octets in front of it that are to be read again. -/
structure Pushback where
  source : Source
  slots : Slots := .empty
deriving Repr, Inhabited, DecidableEq

namespace Pushback

/-- A stream with nothing put back. -/
def ofSource (source : Source) : Pushback := { source }

/-- The octets that are to be read again. -/
def pending (stream : Pushback) : Octets := stream.slots.waiting

/-- Reads that can still deliver something. -/
def weight (stream : Pushback) : Nat :=
  stream.pending.length + stream.source.weight

/-- Puts octets back in front of those that are already waiting.  The stream
keeps no more than a signature can be long, and a refusal changes nothing. -/
def unread (stream : Pushback) (octets : Octets) : Except IoError Unit × Pushback :=
  if octets.isEmpty then (.ok (), stream)
  else if fits : stream.slots.count + octets.length ≤ Signature.windowSize then
    (.ok (), { stream with slots := stream.slots.merge octets fits })
  else (.error (.pushbackFull stream.slots.count octets.length), stream)

/-- One read.  Waiting octets are delivered alone, before the stream under
them is touched. -/
def read (stream : Pushback) (size : Nat) : Except IoError Octets × Pushback :=
  if size = 0 then (.ok [], stream)
  else if stream.slots.start < stream.slots.stop then
    let (octets, slots) := stream.slots.read size
    (.ok octets, { stream with slots })
  else
    let (delivered, source) := stream.source.read size
    (delivered, { stream with source })

/-- Reads to the end. -/
def drain (stream : Pushback) : Drained × Pushback :=
  let (drained, source) := stream.source.drain
  (⟨stream.pending ++ drained.octets, drained.failure⟩, { source })

@[simp] theorem pending_ofSource (source : Source) : (ofSource source).pending = [] := rfl

theorem length_pending (stream : Pushback) : stream.pending.length = stream.slots.count :=
  stream.slots.length_waiting

/-- A read goes to the stream where nothing waits, and else it takes the front of what
waits and leaves the stream alone. -/
theorem read_cases (stream : Pushback) (size : Nat) :
    (∃ result after, stream.pending = [] ∧ stream.source.read size = (result, after.source) ∧
        stream.read size = (result, after) ∧ after.pending = []) ∨
      ∃ after, stream.pending ≠ [] ∧ stream.read size = (.ok (stream.pending.take size), after) ∧
        after.pending = stream.pending.drop size ∧ after.source = stream.source := by
  by_cases waits : stream.slots.start < stream.slots.stop
  · refine .inr ?_
    have some : stream.pending ≠ [] := fun none =>
      stream.slots.waiting_eq_nil_iff.mp none waits
    by_cases nothing : size = 0
    · subst nothing
      exact ⟨stream, some, by rw [read, if_pos rfl, List.take_zero], List.drop_zero.symm, rfl⟩
    · refine ⟨{ stream with slots := (stream.slots.read size).2 }, some, ?_,
        stream.slots.waiting_read size, rfl⟩
      rw [read, if_neg nothing, if_pos waits, pending, ← Slots.octets_read]
  · have none : stream.pending = [] := stream.slots.waiting_eq_nil_iff.mpr waits
    refine .inl ⟨(stream.source.read size).1,
      { stream with source := (stream.source.read size).2 }, none, rfl, ?_, none⟩
    by_cases nothing : size = 0
    · subst nothing
      rw [read, if_pos rfl]
      rfl
    · rw [read, if_neg nothing, if_neg waits]

/-- Octets are put back in front of those that wait, unless they do not fit. -/
theorem unread_cases (stream : Pushback) (octets : Octets) :
    (Signature.windowSize < stream.pending.length + octets.length ∧
        stream.unread octets =
          (.error (.pushbackFull stream.pending.length octets.length), stream)) ∨
      ∃ after, stream.pending.length + octets.length ≤ Signature.windowSize ∧
        stream.unread octets = (.ok (), after) ∧
        after.pending = octets ++ stream.pending ∧ after.source = stream.source := by
  have bound : stream.slots.count ≤ Signature.windowSize :=
    Nat.le_trans (Nat.sub_le _ _) stream.slots.stop_le_size
  rw [length_pending, unread]
  cases octets with
  | nil => exact .inr ⟨stream, bound, rfl, rfl, rfl⟩
  | cons octet rest =>
      rw [if_neg (by simp)]
      by_cases fits : stream.slots.count + (octet :: rest).length ≤ Signature.windowSize
      · refine .inr ⟨_, fits, dif_pos fits, ?_, rfl⟩
        exact stream.slots.waiting_merge (octet :: rest) fits
      · exact .inl ⟨Nat.lt_of_not_le fits, dif_neg fits⟩

/-- A stream never has more put back than a signature can be long. -/
theorem length_pending_le (stream : Pushback) :
    stream.pending.length ≤ Signature.windowSize := by
  rw [length_pending]
  exact Nat.le_trans (Nat.sub_le _ _) stream.slots.stop_le_size

/-- A read delivers no more than was asked for. -/
theorem length_le_of_read {stream after : Pushback} {size : Nat} {octets : Octets}
    (delivered : stream.read size = (.ok octets, after)) : octets.length ≤ size := by
  rcases stream.read_cases size with ⟨result, left, -, inner, through, -⟩ | ⟨left, -, front, -, -⟩
  · cases delivered.symm.trans through
    exact Source.length_le_of_read inner
  · cases delivered.symm.trans front
    exact List.length_take_le _ _

/-- A read makes the stream lighter by what it delivers. -/
theorem weight_add_length_le_of_read {stream after : Pushback} {size : Nat} {octets : Octets}
    (delivered : stream.read size = (.ok octets, after)) :
    after.weight + octets.length ≤ stream.weight := by
  rcases stream.read_cases size with
    ⟨result, left, none, inner, through, none'⟩ | ⟨left, -, front, behind, source⟩
  · cases delivered.symm.trans through
    have lighter := Source.weight_add_length_le_of_read inner
    rw [weight, weight, none, none']
    omega
  · cases delivered.symm.trans front
    rw [weight, weight, behind, source, List.length_drop, List.length_take]
    omega

/-- A read that delivers octets makes the stream lighter. -/
theorem weight_lt_of_read {stream after : Pushback} {size : Nat} {octets : Octets}
    (delivered : stream.read size = (.ok octets, after)) (nonempty : octets ≠ []) :
    after.weight < stream.weight := by
  have lighter := weight_add_length_le_of_read delivered
  have positive := List.length_pos_iff.mpr nonempty
  omega

/-- A read that fails makes the stream lighter. -/
theorem weight_lt_of_read_error {stream after : Pushback} {size : Nat} {cause : IoError}
    (failed : stream.read size = (.error cause, after)) : after.weight < stream.weight := by
  rcases stream.read_cases size with
    ⟨result, left, none, inner, through, none'⟩ | ⟨left, -, front, -, -⟩
  · cases failed.symm.trans through
    have lighter := Source.weight_lt_of_read_error inner
    rw [weight, weight, none, none']
    omega
  · cases failed.symm.trans front

end Pushback

end Bytemark
