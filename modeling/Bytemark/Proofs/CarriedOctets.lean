/-
Module: Bytemark.Proofs.CarriedOctets
Purpose: What a decoder can carry, and what one more octet can do to it.
Trusted boundary: none
Main exports: Encoding.Carried, Encoding.Turn, Encoding.turn_step, Decoder.feed_carried,
  Decoder.carry_feed, Decoder.feed_new
-/
import Bytemark.Proofs.CharacterReading

namespace Bytemark

open Codec

/-!
Between two octets a decoder carries the beginning of one character, as far as
it could still become one.  The next octet then does one of three things: it is
carried too, it completes the character, or it shows that there is none.  The
decoders differ in which octets do what; everything that is said below about
whole runs of octets follows from these three cases.
-/

namespace Codec

/-- An octet is known by its number. -/
theorem ofNat_eq_of_toNat {octet : UInt8} {code : Nat} (same : octet.toNat = code) :
    UInt8.ofNat code = octet := by
  rw [← same, UInt8.ofNat_toNat]

/-- Starting from what is carried, no octet completes or rules out a character. -/
inductive Waits (step : Octets → UInt8 → Reading) : Octets → Octets → Prop where
  | nil {carry : Octets} : Waits step carry []
  | cons {carry rest : Octets} {octet : UInt8}
      (waits : step carry octet = ⟨[], carry ++ [octet]⟩)
      (more : Waits step (carry ++ [octet]) rest) : Waits step carry (octet :: rest)

/-- The number of a character that is named by a scalar value. -/
theorem toNat_ofNat_of_scalar {code : Nat}
    (scalar : code < 0xD800 ∨ 0xDFFF < code ∧ code < 0x110000) :
    (Char.ofNat code).toNat = code := by
  rw [Char.ofNat, dif_pos scalar]
  rfl

namespace Utf8

/-- The beginnings of UTF-8 sequences. -/
inductive Carried : Octets → Prop where
  | nothing : Carried []
  | lead {a : UInt8} (low : 0xC2 ≤ a.toNat) (high : a.toNat ≤ 0xF4) : Carried [a]
  | second {a b : UInt8} (low : 0xE0 ≤ a.toNat) (high : a.toNat ≤ 0xF4)
      (follows : isSecond a b = true) : Carried [a, b]
  | third {a b c : UInt8} (low : 0xF0 ≤ a.toNat) (high : a.toNat ≤ 0xF4)
      (follows : isSecond a b = true) (inside : isTail c = true) : Carried [a, b, c]

end Utf8

namespace Utf16

/-- Half a unit, a high surrogate, or that and half a unit. -/
inductive Carried (order : ByteOrder) : Octets → Prop where
  | nothing : Carried order []
  | half {a : UInt8} : Carried order [a]
  | high {a b : UInt8} (opens : isHigh (unitOf order a b) = true) : Carried order [a, b]
  | highAndHalf {a b c : UInt8} (opens : isHigh (unitOf order a b) = true) :
      Carried order [a, b, c]

end Utf16

namespace Utf32

/-- Part of a unit. -/
inductive Carried : Octets → Prop where
  | nothing : Carried []
  | one {a : UInt8} : Carried [a]
  | two {a b : UInt8} : Carried [a, b]
  | three {a b c : UInt8} : Carried [a, b, c]

end Utf32

end Codec

namespace Encoding

/-- What a decoder of the encoding can carry. -/
def Carried : Encoding → Octets → Prop
  | .utf8 => Utf8.Carried
  | .utf16 order => Utf16.Carried order
  | .utf32 _ => Utf32.Carried
  | .latin1 => fun carry => carry = []

theorem carried_nil (encoding : Encoding) : encoding.Carried [] := by
  cases encoding with
  | utf8 => exact .nothing
  | utf16 order => exact .nothing
  | utf32 order => exact .nothing
  | latin1 => rfl

/-- No more than three octets are ever carried. -/
theorem length_lt_of_carried {encoding : Encoding} {carry : Octets}
    (carried : encoding.Carried carry) : carry.length < 4 := by
  cases encoding with
  | utf8 => cases carried <;> simp
  | utf16 order => cases carried <;> simp
  | utf32 order => cases carried <;> simp
  | latin1 =>
      cases carried
      simp

/-- What one octet can do to what is carried. -/
inductive Turn (encoding : Encoding) (carry : Octets) (octet : UInt8) : Reading → Prop where
  /-- More octets are needed. -/
  | waits (carried : encoding.Carried (carry ++ [octet])) :
      Turn encoding carry octet ⟨[], carry ++ [octet]⟩
  /-- The octets so far are exactly those of a character. -/
  | completes {c : Char} (written : encoding.encodeChar c = some (carry ++ [octet])) :
      Turn encoding carry octet ⟨[.char c], []⟩
  /-- Whole units are no character; what follows them begins anew. -/
  | replaces {pieces : List Piece} {kept : Octets} (carried : encoding.Carried kept)
      (suffix : kept <:+ carry ++ [octet])
      (units : kept.length % encoding.unitSize = (carry.length + 1) % encoding.unitSize) :
      Turn encoding carry octet ⟨.malformed :: pieces, kept⟩

namespace Turn

variable {encoding : Encoding} {carry : Octets} {octet : UInt8} {reading : Reading}

theorem done {code : Nat} (scalar : code < 0xD800 ∨ 0xDFFF < code ∧ code < 0x110000)
    (written : ∀ c : Char, c.toNat = code → encoding.encodeChar c = some (carry ++ [octet])) :
    encoding.Turn carry octet (.done code) :=
  .completes (written (Char.ofNat code) (toNat_ofNat_of_scalar scalar))

theorem reject (units : (carry.length + 1) % encoding.unitSize = 0) :
    encoding.Turn carry octet .reject := by
  refine .replaces encoding.carried_nil (List.nil_suffix) ?_
  rw [units, List.length_nil, Nat.zero_mod]

end Turn

end Encoding

/-! ### UTF-8 -/

namespace Codec.Utf8

open Encoding

theorem encode_eq_one {c : Char} {a : UInt8} (ascii : c.toNat < 0x80)
    (first : a.toNat = c.toNat) : encode c = [a] := by
  unfold encode
  dsimp only
  rw [if_pos ascii, ofNat_eq_of_toNat first]

theorem encode_eq_two {c : Char} {a b : UInt8} (low : 0x80 ≤ c.toNat)
    (high : c.toNat < 0x800) (first : a.toNat = 0xC0 + c.toNat / 64)
    (second : b.toNat = 0x80 + c.toNat % 64) : encode c = [a, b] := by
  unfold encode
  dsimp only
  rw [if_neg (by omega), if_pos high, ofNat_eq_of_toNat first, ofNat_eq_of_toNat second]

theorem encode_eq_three {c : Char} {a b d : UInt8} (low : 0x800 ≤ c.toNat)
    (high : c.toNat < 0x10000) (first : a.toNat = 0xE0 + c.toNat / 4096)
    (second : b.toNat = 0x80 + c.toNat / 64 % 64) (third : d.toNat = 0x80 + c.toNat % 64) :
    encode c = [a, b, d] := by
  unfold encode
  dsimp only
  rw [if_neg (by omega), if_neg (by omega), if_pos high, ofNat_eq_of_toNat first,
    ofNat_eq_of_toNat second, ofNat_eq_of_toNat third]

theorem encode_eq_four {c : Char} {a b d e : UInt8} (low : 0x10000 ≤ c.toNat)
    (first : a.toNat = 0xF0 + c.toNat / 262144)
    (second : b.toNat = 0x80 + c.toNat / 4096 % 64)
    (third : d.toNat = 0x80 + c.toNat / 64 % 64) (fourth : e.toNat = 0x80 + c.toNat % 64) :
    encode c = [a, b, d, e] := by
  unfold encode
  dsimp only
  rw [if_neg (by omega), if_neg (by omega), if_neg (by omega), ofNat_eq_of_toNat first,
    ofNat_eq_of_toNat second, ofNat_eq_of_toNat third, ofNat_eq_of_toNat fourth]

/-- An octet that cannot follow what is carried is read as the first of its own. -/
theorem turn_start_afterMalformed (carry : Octets) (octet : UInt8) :
    Encoding.utf8.Turn carry octet (start octet).afterMalformed := by
  have begins (kept : Octets) (carried : Utf8.Carried kept) (suffix : kept <:+ [octet])
      (pieces : List Piece) : Encoding.utf8.Turn carry octet ⟨.malformed :: pieces, kept⟩ :=
    .replaces carried (suffix.trans (List.suffix_append carry [octet]))
      (by simp only [unitSize, Nat.mod_one])
  unfold start
  split
  · exact begins [] .nothing List.nil_suffix _
  · split
    · rename_i bounds
      simp only [Bool.and_eq_true, decide_eq_true_eq] at bounds
      exact begins [octet] (.lead bounds.1 bounds.2) (List.suffix_refl _) _
    · exact begins [] .nothing List.nil_suffix _

theorem turn_start (octet : UInt8) : Encoding.utf8.Turn [] octet (start octet) := by
  unfold start
  split
  · rename_i ascii
    apply Turn.done (.inl (by omega))
    intro c code
    exact congrArg some (encode_eq_one (by omega) code.symm)
  · split
    · rename_i bounds
      simp only [Bool.and_eq_true, decide_eq_true_eq] at bounds
      exact .waits (.lead bounds.1 bounds.2)
    · exact .reject (Nat.mod_one _)

theorem turn_step {carry : Octets} (carried : Utf8.Carried carry) (octet : UInt8) :
    Encoding.utf8.Turn carry octet (step carry octet) := by
  cases carried with
  | nothing => exact turn_start octet
  | @lead a lower upper =>
      by_cases follows : isSecond a octet = true
      · have bounds := isSecond_iff.mp follows
        simp only [step, follows, if_true]
        split
        · apply Turn.done (.inl (by omega))
          intro c code
          exact congrArg some
            (encode_eq_two (by omega) (by omega) (by omega) (by omega))
        · exact .waits (.second (by omega) upper follows)
      · simp only [step, follows]
        exact turn_start_afterMalformed [a] octet
  | @second a b lower upper follows =>
      by_cases inside : isTail octet = true
      · have bounds := isSecond_iff.mp follows
        have tail := isTail_iff.mp inside
        simp only [step, inside, if_true]
        split
        -- The bounds of the second octet leave out overlong forms and surrogates.
        · apply Turn.done (by omega)
          intro c code
          exact congrArg some
            (encode_eq_three (by omega) (by omega) (by omega) (by omega) (by omega))
        · exact .waits (.third (by omega) upper follows inside)
      · simp only [step, inside]
        exact turn_start_afterMalformed [a, b] octet
  | @third a b c lower upper follows inside =>
      by_cases last : isTail octet = true
      · have bounds := isSecond_iff.mp follows
        have tail := isTail_iff.mp inside
        have ends := isTail_iff.mp last
        simp only [step, last, if_true]
        -- They leave out codes above U+10FFFF too.
        apply Turn.done (by omega)
        intro c code
        exact congrArg some
          (encode_eq_four (by omega) (by omega) (by omega) (by omega) (by omega))
      · simp only [step, last]
        exact turn_start_afterMalformed [a, b, c] octet

theorem waits_of_carried {carry : Octets} (carried : Carried carry) : Waits step [] carry := by
  cases carried with
  | nothing => exact .nil
  | lead low high => exact .cons (start_lead low high) .nil
  | second low high follows =>
      have opens := start_lead (by omega) high
      exact .cons opens (.cons (step_second low follows) .nil)
  | third low high follows inside =>
      have opens := start_lead (by omega) high
      have goesOn := step_second (by omega) follows
      exact .cons opens (.cons goesOn (.cons (step_third low inside) .nil))

end Codec.Utf8

/-! ### UTF-16 -/

namespace Codec.Utf16

open Encoding

theorem unitOf_lt (order : ByteOrder) (a b : UInt8) : unitOf order a b < 0x10000 := by
  have first := a.toNat_lt
  have second := b.toNat_lt
  cases order with
  | big => simp only [unitOf]; omega
  | little => simp only [unitOf]; omega

theorem unitOctets_unitOf_big (a b : UInt8) :
    unitOctets .big (unitOf .big a b) = [a, b] := by
  have second := b.toNat_lt
  have upper : a.toNat = unitOf .big a b / 256 := by
    simp only [unitOf]
    omega
  have lower : b.toNat = unitOf .big a b % 256 := by
    simp only [unitOf]
    omega
  rw [unitOctets, ofNat_eq_of_toNat upper, ofNat_eq_of_toNat lower]

/-- The octets of a unit that two octets write are those two. -/
theorem unitOctets_unitOf (order : ByteOrder) (a b : UInt8) :
    unitOctets order (unitOf order a b) = [a, b] := by
  cases order with
  | big => exact unitOctets_unitOf_big a b
  | little =>
      -- The little-endian form is the big-endian one, read backwards.
      have backwards := unitOctets_unitOf_big b a
      exact congrArg List.reverse backwards

theorem length_encode_mod (order : ByteOrder) (c : Char) : (encode order c).length % 2 = 0 := by
  unfold encode
  dsimp only
  split
  · cases order <;> simp [unitOctets]
  · cases order <;> simp [unitOctets]

theorem encode_eq_unit {order : ByteOrder} {c : Char} {a b : UInt8}
    (code : c.toNat = unitOf order a b) : encode order c = [a, b] := by
  have small := unitOf_lt order a b
  unfold encode
  dsimp only
  rw [if_pos (by omega), code, unitOctets_unitOf]

theorem encode_eq_pair {order : ByteOrder} {c : Char} {a b d e : UInt8}
    (high : isHigh (unitOf order a b) = true) (low : isLow (unitOf order d e) = true)
    (code : c.toNat = pairCode (unitOf order a b) (unitOf order d e)) :
    encode order c = [a, b, d, e] := by
  rw [isHigh_iff] at high
  rw [isLow_iff] at low
  unfold pairCode at code
  have first : 0xD800 + (c.toNat - 0x10000) / 0x400 = unitOf order a b := by omega
  have second : 0xDC00 + (c.toNat - 0x10000) % 0x400 = unitOf order d e := by omega
  unfold encode
  dsimp only
  rw [if_neg (by omega), first, second, unitOctets_unitOf, unitOctets_unitOf]
  rfl

theorem turn_start (order : ByteOrder) (a octet : UInt8) :
    (Encoding.utf16 order).Turn [a] octet (start order a octet) := by
  have small := unitOf_lt order a octet
  unfold start
  dsimp only
  split
  · rename_i high
    exact .waits (.high high)
  · rename_i notHigh
    split
    · exact .reject (by simp [unitSize])
    · rename_i notLow
      rw [isHigh_iff] at notHigh
      rw [isLow_iff] at notLow
      apply Turn.done (by omega)
      intro c code
      exact congrArg some (encode_eq_unit code)

/-- A unit that does not close the pair is read as a unit of its own. -/
theorem turn_start_afterMalformed (order : ByteOrder) (a b c octet : UInt8) :
    (Encoding.utf16 order).Turn [a, b, c] octet (start order c octet).afterMalformed := by
  have begins (kept : Octets) (carried : Utf16.Carried order kept) (suffix : kept <:+ [c, octet])
      (even : kept.length % 2 = 0) (pieces : List Piece) :
      (Encoding.utf16 order).Turn [a, b, c] octet ⟨.malformed :: pieces, kept⟩ :=
    .replaces carried (suffix.trans (List.suffix_append [a, b] [c, octet]))
      (by simpa [unitSize] using even)
  unfold start
  dsimp only
  split
  · rename_i high
    exact begins [c, octet] (.high high) (List.suffix_refl _) (by simp) _
  · split
    · exact begins [] .nothing List.nil_suffix (by simp) _
    · exact begins [] .nothing List.nil_suffix (by simp) _

theorem turn_step {order : ByteOrder} {carry : Octets} (carried : Utf16.Carried order carry)
    (octet : UInt8) : (Encoding.utf16 order).Turn carry octet (step order carry octet) := by
  cases carried with
  | nothing => exact .waits .half
  | half => exact turn_start order _ octet
  | high opens => exact .waits (.highAndHalf opens)
  | @highAndHalf a b c opens =>
      simp only [step]
      split
      · rename_i closes
        have high := (isHigh_iff _).mp opens
        have low := (isLow_iff _).mp closes
        apply Turn.done (by unfold pairCode; omega)
        intro d code
        exact congrArg some (encode_eq_pair opens closes code)
      · exact turn_start_afterMalformed order a b c octet

theorem waits_of_carried {order : ByteOrder} {carry : Octets} (carried : Carried order carry) :
    Waits (step order) [] carry := by
  cases carried with
  | nothing => exact .nil
  | half => exact .cons rfl .nil
  | high opens => exact .cons rfl (.cons (step_high opens) .nil)
  | highAndHalf opens => exact .cons rfl (.cons (step_high opens) (.cons rfl .nil))

end Codec.Utf16

/-! ### UTF-32 -/

namespace Codec.Utf32

open Encoding

theorem length_encode_mod (order : ByteOrder) (c : Char) : (encode order c).length % 4 = 0 := by
  cases order <;> simp [encode]

theorem encode_eq_unit_big {c : Char} {a b d e : UInt8}
    (code : c.toNat = codeOf .big a b d e) : encode .big c = [a, b, d, e] := by
  have second := b.toNat_lt
  have third := d.toNat_lt
  have fourth := e.toNat_lt
  simp only [codeOf] at code
  have one : a.toNat = c.toNat / 16777216 := by omega
  have two : b.toNat = c.toNat / 65536 % 256 := by omega
  have three : d.toNat = c.toNat / 256 % 256 := by omega
  have four : e.toNat = c.toNat % 256 := by omega
  unfold encode
  dsimp only
  rw [ofNat_eq_of_toNat one, ofNat_eq_of_toNat two, ofNat_eq_of_toNat three,
    ofNat_eq_of_toNat four]
  rfl

/-- A character whose number four octets write has these octets. -/
theorem encode_eq_unit {order : ByteOrder} {c : Char} {a b d e : UInt8}
    (code : c.toNat = codeOf order a b d e) : encode order c = [a, b, d, e] := by
  cases order with
  | big => exact encode_eq_unit_big code
  | little =>
      have backwards : encode .big c = [e, d, b, a] := encode_eq_unit_big code
      exact congrArg List.reverse backwards

theorem turn_step {order : ByteOrder} {carry : Octets} (carried : Utf32.Carried carry)
    (octet : UInt8) : (Encoding.utf32 order).Turn carry octet (step order carry octet) := by
  cases carried with
  | nothing => exact .waits .one
  | one => exact .waits .two
  | two => exact .waits .three
  | @three a b c =>
      simp only [step]
      split
      · rename_i scalar
        simp only [isScalar, Bool.or_eq_true, Bool.and_eq_true, decide_eq_true_eq] at scalar
        apply Turn.done scalar
        intro d code
        exact congrArg some (encode_eq_unit code)
      · exact .reject (by simp [unitSize])

theorem waits_of_carried {order : ByteOrder} {carry : Octets} (carried : Carried carry) :
    Waits (step order) [] carry := by
  cases carried with
  | nothing => exact .nil
  | one => exact .cons rfl .nil
  | two => exact .cons rfl (.cons rfl .nil)
  | three => exact .cons rfl (.cons rfl (.cons rfl .nil))

end Codec.Utf32

/-! ### All encodings -/

namespace Encoding

theorem turn_step {encoding : Encoding} {carry : Octets} (carried : encoding.Carried carry)
    (octet : UInt8) : encoding.Turn carry octet (encoding.step carry octet) := by
  cases encoding with
  | utf8 => exact Utf8.turn_step carried octet
  | utf16 order => exact Utf16.turn_step carried octet
  | utf32 order => exact Utf32.turn_step carried octet
  | latin1 =>
      cases carried
      have small := octet.toNat_lt
      apply Turn.done (.inl (by omega))
      intro c code
      simp only [encodeChar]
      rw [if_pos (by omega), code, UInt8.ofNat_toNat]
      rfl

theorem waits_of_carried {encoding : Encoding} {carry : Octets}
    (carried : encoding.Carried carry) : Waits encoding.step [] carry := by
  cases encoding with
  | utf8 => exact Utf8.waits_of_carried carried
  | utf16 order => exact Utf16.waits_of_carried carried
  | utf32 order => exact Utf32.waits_of_carried carried
  | latin1 =>
      cases carried
      exact .nil

/-- A character takes whole units. -/
theorem length_encodeChar_mod {encoding : Encoding} {c : Char} {octets : Octets}
    (written : encoding.encodeChar c = some octets) : octets.length % encoding.unitSize = 0 := by
  cases encoding with
  | utf8 => exact Nat.mod_one _
  | utf16 order =>
      cases written
      exact Utf16.length_encode_mod order c
  | utf32 order =>
      cases written
      exact Utf32.length_encode_mod order c
  | latin1 => exact Nat.mod_one _

namespace Turn

variable {encoding : Encoding} {carry : Octets} {octet : UInt8} {reading : Reading}

theorem carried (turn : encoding.Turn carry octet reading) : encoding.Carried reading.carry := by
  cases turn with
  | waits carried => exact carried
  | completes written => exact encoding.carried_nil
  | replaces carried suffix units => exact carried

theorem suffix (turn : encoding.Turn carry octet reading) :
    reading.carry <:+ carry ++ [octet] := by
  cases turn with
  | waits carried => exact List.suffix_refl _
  | completes written => exact List.nil_suffix
  | replaces carried suffix units => exact suffix

theorem units (turn : encoding.Turn carry octet reading) :
    reading.carry.length % encoding.unitSize = (carry.length + 1) % encoding.unitSize := by
  cases turn with
  | waits carried => rw [List.length_append, List.length_singleton]
  | completes written =>
      have whole := length_encodeChar_mod written
      rw [List.length_append, List.length_singleton] at whole
      rw [whole, List.length_nil, Nat.zero_mod]
  | replaces carried suffix units => exact units

end Turn

end Encoding

namespace Decoder

/-- A decoder that carries what it can. -/
def Sound (decoder : Decoder) : Prop := decoder.encoding.Carried decoder.carry

theorem sound_new (encoding : Encoding) : (Decoder.new encoding).Sound := encoding.carried_nil

theorem feed_of_waits {encoding : Encoding} {carry octets : Octets}
    (waits : Waits encoding.step carry octets) :
    (⟨encoding, carry⟩ : Decoder).feed octets = ([], ⟨encoding, carry ++ octets⟩) := by
  induction waits with
  | nil => rw [feed_nil, List.append_nil]
  | cons waits rest inductionHypothesis =>
      rw [feed_of_wait waits, inductionHypothesis, List.append_assoc, List.singleton_append]

/-- What a decoder carries is all that a new one has to read to carry the same. -/
theorem feed_carried {encoding : Encoding} {carry : Octets} (carried : encoding.Carried carry) :
    (Decoder.new encoding).feed carry = ([], ⟨encoding, carry⟩) :=
  feed_of_waits (Encoding.waits_of_carried carried)

/-- What is carried after a portion is the end of all octets so far, without
whole units. -/
theorem carry_feed {decoder : Decoder} (sound : decoder.Sound) (octets : Octets) :
    (decoder.feed octets).2.Sound ∧ (decoder.feed octets).2.carry <:+ decoder.carry ++ octets ∧
      (decoder.feed octets).2.carry.length % decoder.encoding.unitSize =
        (decoder.carry.length + octets.length) % decoder.encoding.unitSize := by
  induction octets generalizing decoder with
  | nil => exact ⟨sound, by simp, rfl⟩
  | cons octet rest inductionHypothesis =>
      have turn := Encoding.turn_step sound octet
      have next : ({ decoder with
          carry := (decoder.encoding.step decoder.carry octet).carry } : Decoder).Sound :=
        turn.carried
      obtain ⟨still, suffix, units⟩ := inductionHypothesis next
      rw [feed_cons]
      refine ⟨still, ?_, ?_⟩
      · have front : (decoder.encoding.step decoder.carry octet).carry ++ rest <:+
            (decoder.carry ++ [octet]) ++ rest := by
          obtain ⟨before, whole⟩ := turn.suffix
          exact ⟨before, by rw [← List.append_assoc, whole]⟩
        rw [List.append_assoc] at front
        exact suffix.trans front
      · have first := turn.units
        dsimp only at units ⊢
        rw [units, List.length_cons, Nat.add_mod, first, ← Nat.add_mod]
        congr 1
        omega

/-- What a decoder carries once it has been fed these octets. -/
theorem feed_new (encoding : Encoding) (octets : Octets) :
    ∃ pieces carry, (Decoder.new encoding).feed octets = (pieces, ⟨encoding, carry⟩) ∧
      encoding.Carried carry ∧ carry <:+ octets ∧
      carry.length % encoding.unitSize = octets.length % encoding.unitSize := by
  obtain ⟨sound, suffix, units⟩ := carry_feed (sound_new encoding) octets
  have same : ((Decoder.new encoding).feed octets).2.encoding = encoding :=
    feed_encoding (Decoder.new encoding) octets
  cases fed : (Decoder.new encoding).feed octets with
  | mk pieces after =>
      rw [fed] at sound suffix units same
      rcases after with ⟨used, carry⟩
      cases same
      change _ = (0 + octets.length) % _ at units
      rw [Nat.zero_add] at units
      exact ⟨pieces, carry, rfl, sound, suffix, units⟩

end Decoder

end Bytemark
