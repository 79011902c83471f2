/-
Module: Bytemark.Proofs.FourOctetUnits
Purpose: UTF-32 decoded unit by unit, and that it comes to the same as octet by octet.
Trusted boundary: none
Main exports: Codec.Utf32.units, Codec.Utf32.takePortion, Codec.Utf32.decodePortion,
  Codec.Utf32.decodePortions, Codec.Utf32.takePortion_cases, Decoder.feed_eq_takePortion,
  Decoder.decode_utf32, Decoder.decodeEach_utf32
-/
import Bytemark.Proofs.PortionedDecoding

namespace Bytemark

open Codec

/-!
All units of UTF-32 are four octets long, so a portion need not be taken octet by octet.
It fills up the unit that was begun, then come units that are whole, and what is left
begins the next unit.  A decoder that takes octets one by one completes the same pieces
and carries the same octets, as long as fewer than four are pending; and then fewer than
four are pending again.
-/

namespace Codec.Utf32

/-- What the four octets of a unit come to. -/
def unit (order : ByteOrder) : Octets → Piece
  | [a, b, c, d] =>
      let code := codeOf order a b c d
      if isScalar code then .char (Char.ofNat code) else .malformed
  | _ => .malformed

/-- The units that stand in a row, and the octets behind the last of them. -/
def units (order : ByteOrder) : Octets → List Piece × Octets
  | a :: b :: c :: d :: rest =>
      let (pieces, tail) := units order rest
      (unit order [a, b, c, d] :: pieces, tail)
  | tail => ([], tail)

/-- Fills up the unit that was begun: the piece that it comes to, or what is pending of it
still, and the octets behind it. -/
def fillUp (order : ByteOrder) (pending octets : Octets) : List Piece × Octets × Octets :=
  if pending.isEmpty then ([], [], octets)
  else
    let taken := min (4 - pending.length) octets.length
    let begun := pending ++ octets.take taken
    if begun.length = 4 then ([unit order begun], [], octets.drop taken)
    else ([], begun, octets.drop taken)

/-- What a portion completes behind the octets that are pending, and what is pending then. -/
def takePortion (order : ByteOrder) (pending octets : Octets) : List Piece × Octets :=
  let (begun, held, rest) := fillUp order pending octets
  let (whole, tail) := units order rest
  (begun ++ whole, if tail.isEmpty then held else tail)

/-- Takes a portion.  At the end of the stream, what is pending then is a malformed unit. -/
def decodePortion (order : ByteOrder) (pending octets : Octets) (last : Bool) :
    List Piece × Octets :=
  let (pieces, left) := takePortion order pending octets
  if last && !left.isEmpty then (pieces ++ [.malformed], []) else (pieces, left)

/-- Decodes portions one after the other, more being expected after each. -/
def decodePortions (order : ByteOrder) (pending : Octets) : List Octets → List Piece × Octets
  | [] => ([], pending)
  | portion :: rest =>
      let (pieces, left) := decodePortion order pending portion false
      let (more, ended) := decodePortions order left rest
      (pieces ++ more, ended)

theorem step_of_short (order : ByteOrder) {carry : Octets} (short : carry.length < 3)
    (octet : UInt8) : step order carry octet = .wait (carry ++ [octet]) := by
  match carry, short with
  | [], _ => rfl
  | [_], _ => rfl
  | [_, _], _ => rfl

theorem step_of_three (order : ByteOrder) {carry : Octets} (three : carry.length = 3)
    (octet : UInt8) : step order carry octet = ⟨[unit order (carry ++ [octet])], []⟩ := by
  match carry, three with
  | [a, b, c], _ =>
      simp only [step, unit, List.cons_append, List.nil_append]
      split
      · rfl
      · rfl

theorem length_lt_of_no_unit {tail : Octets}
    (none : ∀ a b c d rest, tail = a :: b :: c :: d :: rest → False) : tail.length < 4 := by
  match tail with
  | [] | [_] | [_, _] | [_, _, _] => simp
  | a :: b :: c :: d :: rest => exact absurd rfl (none a b c d rest)

/-- Either nothing was begun, or the unit is completed, or all octets go into it and more
are needed. -/
theorem fillUp_cases (order : ByteOrder) {pending : Octets} (short : pending.length < 4)
    (octets : Octets) :
    (pending = [] ∧ fillUp order pending octets = ([], [], octets)) ∨
      (∃ front rest, octets = front ++ rest ∧ pending.length + front.length = 4 ∧
        fillUp order pending octets = ([unit order (pending ++ front)], [], rest)) ∨
      (pending.length + octets.length < 4 ∧
        fillUp order pending octets = ([], pending ++ octets, [])) := by
  by_cases none : pending = []
  · subst none
    exact .inl ⟨rfl, rfl⟩
  · right
    have begun : ¬pending.isEmpty = true := mt List.isEmpty_iff.mp none
    obtain ⟨missing, needed⟩ : ∃ missing, 4 - pending.length = missing := ⟨_, rfl⟩
    simp only [fillUp, if_neg begun, needed]
    rcases Nat.lt_or_ge octets.length missing with few | enough
    · right
      have all : min missing octets.length = octets.length :=
        Nat.min_eq_right (Nat.le_of_lt few)
      have more : (pending ++ octets).length ≠ 4 := by
        rw [List.length_append]
        omega
      refine ⟨by omega, ?_⟩
      rw [all, List.take_length, List.drop_length, if_neg more]
    · left
      have front : (octets.take missing).length = missing := List.length_take_of_le enough
      have full : (pending ++ octets.take missing).length = 4 := by
        rw [List.length_append, front]
        omega
      refine ⟨octets.take missing, octets.drop missing, (List.take_append_drop ..).symm,
        by omega, ?_⟩
      rw [Nat.min_eq_left enough, if_pos full]

/-- Nothing in place of nothing changes nothing. -/
theorem ite_isEmpty_nil (tail : Octets) : (if tail.isEmpty then [] else tail) = tail := by
  cases tail with
  | nil => rfl
  | cons octet rest => rfl

/-- A portion is units in a row, or what completes a unit in front of such units, or too
short to complete one. -/
theorem takePortion_cases (order : ByteOrder) {pending : Octets} (short : pending.length < 4)
    (octets : Octets) :
    (pending = [] ∧ takePortion order pending octets = units order octets) ∨
      (∃ front rest, octets = front ++ rest ∧ pending.length + front.length = 4 ∧
        takePortion order pending octets =
          (unit order (pending ++ front) :: (units order rest).1, (units order rest).2)) ∨
      (pending.length + octets.length < 4 ∧
        takePortion order pending octets = ([], pending ++ octets)) := by
  rcases fillUp_cases order short octets with
    ⟨none, filled⟩ | ⟨front, rest, cut, whole, filled⟩ | ⟨few, filled⟩
  · left
    refine ⟨none, ?_⟩
    simp only [takePortion, filled, ite_isEmpty_nil, List.nil_append]
  · right
    left
    refine ⟨front, rest, cut, whole, ?_⟩
    simp only [takePortion, filled, ite_isEmpty_nil, List.singleton_append]
  · right
    right
    refine ⟨few, ?_⟩
    rw [takePortion, filled]
    rfl

theorem decodePortion_unfinished (order : ByteOrder) (pending octets : Octets) :
    decodePortion order pending octets false = takePortion order pending octets := rfl

theorem decodePortion_finished (order : ByteOrder) (pending octets : Octets) :
    decodePortion order pending octets true =
      ((takePortion order pending octets).1 ++
        if (takePortion order pending octets).2.isEmpty then [] else [.malformed], []) := by
  rw [decodePortion]
  rcases takePortion order pending octets with ⟨pieces, _ | ⟨octet, left⟩⟩
  · exact congrArg (·, []) (List.append_nil pieces).symm
  · rfl

theorem length_units_lt (order : ByteOrder) (octets : Octets) :
    (units order octets).2.length < 4 := by
  fun_induction units order octets with
  | case1 a b c d rest pieces tail split inductionHypothesis =>
      rw [split] at inductionHypothesis
      exact inductionHypothesis
  | case2 tail none => exact length_lt_of_no_unit none

/-- No portion leaves a whole unit pending. -/
theorem length_takePortion_lt (order : ByteOrder) {pending : Octets}
    (short : pending.length < 4) (octets : Octets) :
    (takePortion order pending octets).2.length < 4 := by
  rcases takePortion_cases order short octets with
    ⟨-, read⟩ | ⟨front, rest, -, -, read⟩ | ⟨few, read⟩
  · rw [read]
    exact length_units_lt order octets
  · rw [read]
    exact length_units_lt order rest
  · rw [read, List.length_append]
    exact few

end Codec.Utf32

namespace Decoder

variable {order : ByteOrder}

/-- Octets that do not complete a unit are carried. -/
theorem feed_of_short {pending octets : Octets} (short : pending.length + octets.length < 4) :
    feed ⟨.utf32 order, pending⟩ octets = ([], ⟨.utf32 order, pending ++ octets⟩) := by
  induction octets generalizing pending with
  | nil => rw [feed_nil, List.append_nil]
  | cons octet rest inductionHypothesis =>
      rw [List.length_cons] at short
      have waits : (Encoding.utf32 order).step pending octet = .wait (pending ++ [octet]) :=
        Utf32.step_of_short order (by omega) octet
      have shorter : (pending ++ [octet]).length + rest.length < 4 := by
        rw [List.length_append, List.length_singleton]
        omega
      have fed := inductionHypothesis shorter
      rw [List.append_assoc, List.singleton_append] at fed
      rw [feed_cons]
      dsimp only
      rw [waits]
      dsimp only [Reading.wait]
      rw [fed, List.nil_append]

/-- Octets that complete a unit to the last leave nothing to carry. -/
theorem feed_of_unit {pending octets : Octets} (short : pending.length < 4)
    (whole : pending.length + octets.length = 4) :
    feed ⟨.utf32 order, pending⟩ octets =
      ([Utf32.unit order (pending ++ octets)], ⟨.utf32 order, []⟩) := by
  -- All octets but the last are carried, and the last one completes the unit.
  rcases List.eq_nil_or_concat octets with none | ⟨front, octet, rfl⟩
  · rw [none, List.length_nil] at whole
    omega
  · rw [List.concat_eq_append] at whole ⊢
    rw [List.length_append, List.length_singleton] at whole
    have three : (pending ++ front).length = 3 := by
      rw [List.length_append]
      omega
    have completes : (Encoding.utf32 order).step (pending ++ front) octet =
        ⟨[Utf32.unit order (pending ++ front ++ [octet])], []⟩ :=
      Utf32.step_of_three order three octet
    rw [feed_append, feed_of_short (by omega), feed_cons]
    dsimp only
    rw [completes, feed_nil, List.append_assoc]
    rfl

/-- Units in a row are completed one by one, and the octets behind them are carried. -/
theorem feed_units (octets : Octets) :
    feed ⟨.utf32 order, []⟩ octets =
      ((Utf32.units order octets).1, ⟨.utf32 order, (Utf32.units order octets).2⟩) := by
  fun_induction Utf32.units order octets with
  | case1 a b c d rest pieces tail split inductionHypothesis =>
      rw [split] at inductionHypothesis
      have first : feed ⟨.utf32 order, []⟩ [a, b, c, d] =
          ([Utf32.unit order [a, b, c, d]], ⟨.utf32 order, []⟩) :=
        feed_of_unit (by decide) rfl
      have cut : a :: b :: c :: d :: rest = [a, b, c, d] ++ rest := rfl
      rw [cut, feed_append, first, inductionHypothesis]
      rfl
  | case2 tail none =>
      apply feed_of_short
      rw [List.length_nil, Nat.zero_add]
      exact Utf32.length_lt_of_no_unit none

/-- Octet by octet, a portion completes what it completes unit by unit. -/
theorem feed_eq_takePortion {pending : Octets} (short : pending.length < 4) (octets : Octets) :
    feed ⟨.utf32 order, pending⟩ octets =
      ((Utf32.takePortion order pending octets).1,
        ⟨.utf32 order, (Utf32.takePortion order pending octets).2⟩) := by
  rcases Utf32.takePortion_cases order short octets with
    ⟨rfl, read⟩ | ⟨front, rest, rfl, whole, read⟩ | ⟨few, read⟩
  · rw [feed_units, read]
  · rw [feed_append, feed_of_unit short whole, feed_units, read]
    rfl
  · rw [feed_of_short few, read]

/-- A decoder of UTF-32 that takes octets one by one decodes a portion as one that takes it
unit by unit, at the end of the stream and before it, and holds the same octets back. -/
theorem decode_utf32 {pending : Octets} (short : pending.length < 4) (octets : Octets)
    (last : Bool) :
    let portion := Utf32.decodePortion order pending octets last
    decode ⟨.utf32 order, pending⟩ octets last =
      (portion.1.map Piece.toChar, ⟨.utf32 order, portion.2⟩) := by
  cases last with
  | false =>
      rw [decode_unfinished, feed_eq_takePortion short, Utf32.decodePortion_unfinished]
  | true =>
      rw [decode_finished, feed_eq_takePortion short, Utf32.decodePortion_finished]
      rfl

/-- However a stream is cut into portions, taking it unit by unit comes to the same. -/
theorem decodeEach_utf32 {pending : Octets} (short : pending.length < 4)
    (portions : List Octets) :
    let read := Utf32.decodePortions order pending portions
    decodeEach ⟨.utf32 order, pending⟩ portions =
      (read.1.map Piece.toChar, ⟨.utf32 order, read.2⟩) := by
  induction portions generalizing pending with
  | nil => rfl
  | cons portion rest inductionHypothesis =>
      have again := inductionHypothesis (Utf32.length_takePortion_lt order short portion)
      rw [decodeEach, decode_utf32 short, Utf32.decodePortions]
      dsimp only at again ⊢
      rw [Utf32.decodePortion_unfinished, again, ← List.map_append]

end Decoder

end Bytemark
