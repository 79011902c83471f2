/-
Module: Bytemark.Proofs.CharacterReading
Purpose: Every encoding reads back the characters that it writes.
Trusted boundary: none
Main exports: Codec.Completes, Encoding.completes_of_encodeChar, Encoding.feed_of_encodeFrom,
  Encoding.decode_of_encode, Codec.Utf8.decode_encodeText
-/
import Bytemark.Codec

namespace Bytemark

open Codec

/-!
An encoder writes a character as a run of octets, and a decoder takes them one
at a time.  What ties the two is that the decoder waits at every octet of the
run but the last and answers the character at the last.  This is said once as
`Codec.Completes`; the decoders of streams and the strict reading of UTF-8
both follow from it.
-/

namespace Codec

/-- Starting from what is carried, the octets are exactly one character. -/
inductive Completes (step : Octets → UInt8 → Reading) : Octets → Octets → Char → Prop where
  | last {carry : Octets} {octet : UInt8} {c : Char}
      (answer : step carry octet = ⟨[.char c], []⟩) : Completes step carry [octet] c
  | more {carry unfinished rest : Octets} {octet : UInt8} {c : Char}
      (waits : step carry octet = ⟨[], unfinished⟩)
      (completes : Completes step unfinished rest c) :
      Completes step carry (octet :: rest) c

theorem ofNat_toNat_of_eq {c : Char} {code : Nat} (same : code = c.toNat) :
    Char.ofNat code = c := by
  rw [same, Char.ofNat_toNat]

/-- A character is no surrogate and lies within the code space. -/
theorem toNat_isScalar (c : Char) :
    c.toNat < 0xD800 ∨ 0xDFFF < c.toNat ∧ c.toNat < 0x110000 := c.valid

theorem done_eq {c : Char} {code : Nat} (same : code = c.toNat) :
    Reading.done code = ⟨[.char c], []⟩ := by
  rw [Reading.done, ofNat_toNat_of_eq same]

/-- The octet of a number that an octet can hold. -/
theorem toNat_ofNat {code : Nat} (small : code < 256) : (UInt8.ofNat code).toNat = code := by
  rw [UInt8.toNat_ofNat']
  exact Nat.mod_eq_of_lt small

/-! ### UTF-8 -/

namespace Utf8

/-- The octets that may come second: the four leads with a bound of their own
exclude overlong forms, surrogates and codes above U+10FFFF. -/
theorem isSecond_iff {first octet : UInt8} :
    isSecond first octet = true ↔
      (0x80 ≤ octet.toNat ∧ octet.toNat ≤ 0xBF) ∧
        (first.toNat = 0xE0 → 0xA0 ≤ octet.toNat) ∧
        (first.toNat = 0xF0 → 0x90 ≤ octet.toNat) ∧
        (first.toNat = 0xED → octet.toNat ≤ 0x9F) ∧
        (first.toNat = 0xF4 → octet.toNat ≤ 0x8F) := by
  simp only [isSecond, secondLow, secondHigh, Bool.and_eq_true, decide_eq_true_eq, beq_iff_eq]
  grind

theorem isTail_iff {octet : UInt8} :
    isTail octet = true ↔ 0x80 ≤ octet.toNat ∧ octet.toNat ≤ 0xBF := by
  simp [isTail]

/-- An octet that opens a sequence is carried. -/
theorem start_lead {octet : UInt8} (low : 0xC2 ≤ octet.toNat) (high : octet.toNat ≤ 0xF4) :
    start octet = ⟨[], [octet]⟩ := by
  unfold start
  rw [if_neg (by omega), if_pos (by simp [low, high])]
  rfl

theorem step_second {a b : UInt8} (low : 0xE0 ≤ a.toNat) (follows : isSecond a b = true) :
    step [a] b = ⟨[], [a, b]⟩ := by
  simp only [step, follows, if_true]
  rw [if_neg (by omega)]
  rfl

theorem step_third {a b c : UInt8} (low : 0xF0 ≤ a.toNat) (inside : isTail c = true) :
    step [a, b] c = ⟨[], [a, b, c]⟩ := by
  simp only [step, inside, if_true]
  rw [if_neg (by omega)]
  rfl

theorem completes_one {c : Char} {a : UInt8} (ascii : c.toNat < 0x80)
    (first : a.toNat = c.toNat) : Completes step [] [a] c := by
  refine .last ?_
  change start a = _
  unfold start
  rw [if_pos (by omega)]
  exact done_eq first

theorem completes_two {c : Char} {a b : UInt8} (low : 0x80 ≤ c.toNat)
    (high : c.toNat < 0x800) (first : a.toNat = 0xC0 + c.toNat / 64)
    (second : b.toNat = 0x80 + c.toNat % 64) : Completes step [] [a, b] c := by
  have opens : step [] a = ⟨[], [a]⟩ := start_lead (by omega) (by omega)
  have follows : isSecond a b = true := isSecond_iff.mpr (by omega)
  have ends : step [a] b = ⟨[.char c], []⟩ := by
    simp only [step, follows, if_true]
    rw [if_pos (by omega)]
    exact done_eq (by omega)
  exact .more opens (.last ends)

theorem completes_three {c : Char} {a b d : UInt8} (low : 0x800 ≤ c.toNat)
    (high : c.toNat < 0x10000) (first : a.toNat = 0xE0 + c.toNat / 4096)
    (second : b.toNat = 0x80 + c.toNat / 64 % 64) (third : d.toNat = 0x80 + c.toNat % 64) :
    Completes step [] [a, b, d] c := by
  have scalar := toNat_isScalar c
  have opens : step [] a = ⟨[], [a]⟩ := start_lead (by omega) (by omega)
  have follows : isSecond a b = true := isSecond_iff.mpr (by omega)
  have goesOn := step_second (by omega) follows
  have tail : isTail d = true := isTail_iff.mpr (by omega)
  have ends : step [a, b] d = ⟨[.char c], []⟩ := by
    simp only [step, tail, if_true]
    rw [if_pos (by omega)]
    exact done_eq (by omega)
  exact .more opens (.more goesOn (.last ends))

theorem completes_four {c : Char} {a b d e : UInt8} (low : 0x10000 ≤ c.toNat)
    (first : a.toNat = 0xF0 + c.toNat / 262144)
    (second : b.toNat = 0x80 + c.toNat / 4096 % 64)
    (third : d.toNat = 0x80 + c.toNat / 64 % 64) (fourth : e.toNat = 0x80 + c.toNat % 64) :
    Completes step [] [a, b, d, e] c := by
  have scalar := toNat_isScalar c
  have opens : step [] a = ⟨[], [a]⟩ := start_lead (by omega) (by omega)
  have follows : isSecond a b = true := isSecond_iff.mpr (by omega)
  have goesOn := step_second (by omega) follows
  have inside : isTail d = true := isTail_iff.mpr (by omega)
  have goesFurther : step [a, b] d = ⟨[], [a, b, d]⟩ := step_third (by omega) inside
  have tail : isTail e = true := isTail_iff.mpr (by omega)
  have ends : step [a, b, d] e = ⟨[.char c], []⟩ := by
    simp only [step, tail, if_true]
    exact done_eq (by omega)
  exact .more opens (.more goesOn (.more goesFurther (.last ends)))

theorem completes_encode (c : Char) : Completes step [] (encode c) c := by
  have scalar := toNat_isScalar c
  unfold encode
  dsimp only
  split
  · rename_i ascii
    exact completes_one ascii (toNat_ofNat (by omega))
  · split
    · exact completes_two (by omega) (by omega) (toNat_ofNat (by omega)) (toNat_ofNat (by omega))
    · split
      · exact completes_three (by omega) (by omega) (toNat_ofNat (by omega))
          (toNat_ofNat (by omega)) (toNat_ofNat (by omega))
      · exact completes_four (by omega) (toNat_ofNat (by omega)) (toNat_ofNat (by omega))
          (toNat_ofNat (by omega)) (toNat_ofNat (by omega))

end Utf8

/-! ### UTF-16 -/

namespace Utf16

theorem unitOf_unitOctets (order : ByteOrder) {unit : Nat} (small : unit < 0x10000) :
    ∃ first second, unitOctets order unit = [first, second] ∧
      unitOf order first second = unit := by
  have high : (UInt8.ofNat (unit / 256)).toNat = unit / 256 := toNat_ofNat (by omega)
  have low : (UInt8.ofNat (unit % 256)).toNat = unit % 256 := toNat_ofNat (by omega)
  cases order with
  | big =>
      refine ⟨_, _, rfl, ?_⟩
      simp only [unitOf, high, low]
      omega
  | little =>
      refine ⟨_, _, rfl, ?_⟩
      simp only [unitOf, high, low]
      omega

theorem isHigh_iff (unit : Nat) : isHigh unit = true ↔ 0xD800 ≤ unit ∧ unit ≤ 0xDBFF := by
  simp [isHigh]

theorem isLow_iff (unit : Nat) : isLow unit = true ↔ 0xDC00 ≤ unit ∧ unit ≤ 0xDFFF := by
  simp [isLow]

theorem step_high {order : ByteOrder} {a b : UInt8} (opens : isHigh (unitOf order a b) = true) :
    step order [a] b = ⟨[], [a, b]⟩ := by
  simp only [step, start, opens, if_true]
  rfl

theorem completes_unit {order : ByteOrder} {c : Char} (basic : c.toNat < 0x10000) :
    Completes (step order) [] (unitOctets order c.toNat) c := by
  have scalar := toNat_isScalar c
  obtain ⟨first, second, octets, unit⟩ := unitOf_unitOctets order basic
  rw [octets]
  have ends : step order [first] second = ⟨[.char c], []⟩ := by
    simp only [step, start, unit, isHigh_iff, isLow_iff]
    rw [if_neg (by omega), if_neg (by omega)]
    exact done_eq rfl
  exact .more rfl (.last ends)

theorem completes_pair {order : ByteOrder} {c : Char} (beyond : 0x10000 ≤ c.toNat) :
    Completes (step order) []
      (unitOctets order (0xD800 + (c.toNat - 0x10000) / 0x400) ++
        unitOctets order (0xDC00 + (c.toNat - 0x10000) % 0x400)) c := by
  have scalar := toNat_isScalar c
  have highSmall : 0xD800 + (c.toNat - 0x10000) / 0x400 < 0x10000 := by omega
  have lowSmall : 0xDC00 + (c.toNat - 0x10000) % 0x400 < 0x10000 := by omega
  obtain ⟨first, second, highOctets, high⟩ := unitOf_unitOctets order highSmall
  obtain ⟨third, fourth, lowOctets, low⟩ := unitOf_unitOctets order lowSmall
  rw [highOctets, lowOctets]
  have opens : isHigh (unitOf order first second) = true := by
    rw [high, isHigh_iff]
    omega
  have goesOn := step_high opens
  have ends : step order [first, second, third] fourth = ⟨[.char c], []⟩ := by
    simp only [step, high, low, isLow_iff]
    rw [if_pos (by omega)]
    apply done_eq
    unfold pairCode
    omega
  exact .more rfl (.more goesOn (.more rfl (.last ends)))

theorem completes_encode (order : ByteOrder) (c : Char) :
    Completes (step order) [] (encode order c) c := by
  unfold encode
  dsimp only
  split
  · rename_i basic
    exact completes_unit basic
  · exact completes_pair (by omega)

end Utf16

/-! ### UTF-32 -/

namespace Utf32

theorem completes_encode (order : ByteOrder) (c : Char) :
    Completes (step order) [] (encode order c) c := by
  have scalar := toNat_isScalar c
  have first : (UInt8.ofNat (c.toNat / 16777216)).toNat = c.toNat / 16777216 :=
    toNat_ofNat (by omega)
  have second : (UInt8.ofNat (c.toNat / 65536 % 256)).toNat = c.toNat / 65536 % 256 :=
    toNat_ofNat (by omega)
  have third : (UInt8.ofNat (c.toNat / 256 % 256)).toNat = c.toNat / 256 % 256 :=
    toNat_ofNat (by omega)
  have fourth : (UInt8.ofNat (c.toNat % 256)).toNat = c.toNat % 256 := toNat_ofNat (by omega)
  have isCode : isScalar c.toNat = true := by
    simp only [isScalar, Bool.or_eq_true, Bool.and_eq_true, decide_eq_true_eq]
    omega
  cases order with
  | big =>
      refine .more rfl (.more rfl (.more rfl (.last ?_)))
      have code : codeOf .big (UInt8.ofNat (c.toNat / 16777216))
          (UInt8.ofNat (c.toNat / 65536 % 256)) (UInt8.ofNat (c.toNat / 256 % 256))
          (UInt8.ofNat (c.toNat % 256)) = c.toNat := by
        simp only [codeOf, first, second, third, fourth]
        omega
      simp only [step, code, isCode, if_true]
      exact done_eq rfl
  | little =>
      refine .more rfl (.more rfl (.more rfl (.last ?_)))
      have code : codeOf .little (UInt8.ofNat (c.toNat % 256))
          (UInt8.ofNat (c.toNat / 256 % 256)) (UInt8.ofNat (c.toNat / 65536 % 256))
          (UInt8.ofNat (c.toNat / 16777216)) = c.toNat := by
        simp only [codeOf, first, second, third, fourth]
        omega
      simp only [step, code, isCode, if_true]
      exact done_eq rfl

end Utf32

end Codec

/-! ### All encodings -/

/-- The octets that an encoding has for a character are read as that character. -/
theorem Encoding.completes_of_encodeChar {encoding : Encoding} {c : Char} {octets : Octets}
    (encoded : encoding.encodeChar c = some octets) :
    Completes encoding.step [] octets c := by
  cases encoding with
  | utf8 =>
      cases encoded
      exact Utf8.completes_encode c
  | utf16 order =>
      cases encoded
      exact Utf16.completes_encode order c
  | utf32 order =>
      cases encoded
      exact Utf32.completes_encode order c
  | latin1 =>
      simp only [Encoding.encodeChar] at encoded
      split at encoded
      · rename_i small
        cases encoded
        refine .last ?_
        change Reading.done _ = _
        exact done_eq (toNat_ofNat small)
      · cases encoded

namespace Decoder

theorem feed_of_wait {encoding : Encoding} {carry kept : Octets} {octet : UInt8}
    (waits : encoding.step carry octet = ⟨[], kept⟩) (rest : Octets) :
    (⟨encoding, carry⟩ : Decoder).feed (octet :: rest) =
      (⟨encoding, kept⟩ : Decoder).feed rest := by
  rw [feed_cons]
  dsimp only
  rw [waits]
  rfl

/-- A decoder goes on behind a completed character as if it had just begun. -/
theorem feed_of_completes {encoding : Encoding} {carry octets : Octets} {c : Char}
    (completes : Completes encoding.step carry octets c) (rest : Octets) :
    (⟨encoding, carry⟩ : Decoder).feed (octets ++ rest) =
      (.char c :: ((Decoder.new encoding).feed rest).1, ((Decoder.new encoding).feed rest).2) := by
  induction completes with
  | last answer =>
      rw [List.singleton_append, feed_cons, answer]
      rfl
  | more waits completes inductionHypothesis =>
      rw [List.cons_append, feed_of_wait waits]
      exact inductionHypothesis

end Decoder

/-- A decoded text is what the octets complete and what their end leaves. -/
theorem Encoding.toList_decode (encoding : Encoding) (octets : Octets) :
    (encoding.decode octets).toList =
      (((Decoder.new encoding).feed octets).1 ++
        ((Decoder.new encoding).feed octets).2.finish.1).map Piece.toChar := by
  rw [decode, String.toList_ofList]
  rfl

theorem Codec.toChar_map_char (text : List Char) :
    (text.map Piece.char).map Piece.toChar = text := by
  rw [List.map_map]
  exact List.map_id text

namespace Encoding

/-! Encoding puts the octets of the characters one behind the other. -/

theorem encodeFrom_written (encoding : Encoding) (written : Octets) (text : List Char) :
    encoding.encodeFrom written text =
      (encoding.encodeFrom [] text).map (written.reverse ++ ·) := by
  induction text generalizing written with
  | nil => simp [encodeFrom, Except.map]
  | cons c rest inductionHypothesis =>
      simp only [encodeFrom]
      cases encoding.encodeChar c with
      | none => rfl
      | some octets =>
          dsimp only
          rw [inductionHypothesis, inductionHypothesis (octets.reverse ++ [])]
          cases encoding.encodeFrom [] rest with
          | error refusal => rfl
          | ok following => simp [Except.map]

theorem encodeFrom_cons (encoding : Encoding) (c : Char) (rest : List Char) :
    encoding.encodeFrom [] (c :: rest) =
      match encoding.encodeChar c with
      | some octets => (encoding.encodeFrom [] rest).map (octets ++ ·)
      | none => .error ⟨c, encoding⟩ := by
  rw [encodeFrom]
  cases encoding.encodeChar c with
  | none => rfl
  | some octets =>
      dsimp only
      rw [encodeFrom_written]
      simp

/-- An encoded text is its first character and an encoded rest. -/
theorem encodeFrom_cons_eq_ok {encoding : Encoding} {c : Char} {rest : List Char}
    {octets : Octets} (encoded : encoding.encodeFrom [] (c :: rest) = .ok octets) :
    ∃ first following, encoding.encodeChar c = some first ∧
      encoding.encodeFrom [] rest = .ok following ∧ octets = first ++ following := by
  rw [encodeFrom_cons] at encoded
  cases character : encoding.encodeChar c with
  | none => simp [character] at encoded
  | some first =>
      rw [character] at encoded
      cases tail : encoding.encodeFrom [] rest with
      | error refusal => simp [tail, Except.map] at encoded
      | ok following =>
          simp only [tail, Except.map, Except.ok.injEq] at encoded
          exact ⟨first, following, rfl, rfl, encoded.symm⟩

theorem encodeFrom_append {encoding : Encoding} {first second : List Char}
    {firstOctets secondOctets : Octets}
    (encodedFirst : encoding.encodeFrom [] first = .ok firstOctets)
    (encodedSecond : encoding.encodeFrom [] second = .ok secondOctets) :
    encoding.encodeFrom [] (first ++ second) = .ok (firstOctets ++ secondOctets) := by
  induction first generalizing firstOctets with
  | nil =>
      cases encodedFirst
      simpa using encodedSecond
  | cons c rest inductionHypothesis =>
      obtain ⟨head, following, character, tail, rfl⟩ := encodeFrom_cons_eq_ok encodedFirst
      rw [List.cons_append, encodeFrom_cons, character]
      simp [inductionHypothesis tail, Except.map]

/-- Texts may be joined before they are encoded. -/
theorem encode_append {encoding : Encoding} {first second : String}
    {firstOctets secondOctets : Octets} (encodedFirst : encoding.encode first = .ok firstOctets)
    (encodedSecond : encoding.encode second = .ok secondOctets) :
    encoding.encode (first ++ second) = .ok (firstOctets ++ secondOctets) := by
  unfold encode at *
  rw [String.toList_append]
  exact encodeFrom_append encodedFirst encodedSecond

/-- What an encoding writes, its decoder reads, and is then as new. -/
theorem feed_of_encodeFrom {encoding : Encoding} {text : List Char} {octets : Octets}
    (encoded : encoding.encodeFrom [] text = .ok octets) :
    (Decoder.new encoding).feed octets = (text.map Piece.char, Decoder.new encoding) := by
  induction text generalizing octets with
  | nil =>
      cases encoded
      rfl
  | cons c rest inductionHypothesis =>
      obtain ⟨first, following, character, tail, rfl⟩ := encodeFrom_cons_eq_ok encoded
      have completes := Decoder.feed_of_completes (completes_of_encodeChar character) following
      rw [inductionHypothesis tail] at completes
      exact completes

/-- Decoding undoes encoding. -/
theorem decode_of_encode {encoding : Encoding} {text : String} {octets : Octets}
    (encoded : encoding.encode text = .ok octets) : encoding.decode octets = text := by
  rw [← String.toList_inj, toList_decode, feed_of_encodeFrom encoded]
  change (text.toList.map Piece.char ++ []).map Piece.toChar = _
  rw [List.append_nil, toChar_map_char]

end Encoding

namespace Codec.Utf8

/-- The strict reading goes on behind a completed character. -/
theorem decodeFrom_of_completes {carry octets : Octets} {c : Char}
    (completes : Completes step carry octets c) (index : Nat) (read : List Char)
    (rest : Octets) :
    ∃ next, decodeFrom index carry read (octets ++ rest) = decodeFrom next [] (c :: read) rest := by
  induction completes with
  | @last carry octet c answer =>
      refine ⟨index + carry.length + 1, ?_⟩
      rw [List.singleton_append, decodeFrom, answer]
  | more waits completes inductionHypothesis =>
      rcases inductionHypothesis with ⟨next, goesOn⟩
      refine ⟨next, ?_⟩
      rw [List.cons_append, decodeFrom, waits]
      exact goesOn

theorem decodeFrom_encodeText (index : Nat) (read text : List Char) :
    decodeFrom index [] read (encodeText text) = .ok (read.reverse ++ text) := by
  induction text generalizing index read with
  | nil => simp [encodeText, decodeFrom]
  | cons c rest inductionHypothesis =>
      obtain ⟨next, goesOn⟩ :=
        decodeFrom_of_completes (completes_encode c) index read (encodeText rest)
      have whole : encodeText (c :: rest) = encode c ++ encodeText rest := rfl
      rw [whole, goesOn, inductionHypothesis]
      simp

/-- The UTF-8 form of a text is UTF-8. -/
theorem decode_encodeText (text : List Char) : decode (encodeText text) = .ok text := by
  simpa [decode] using decodeFrom_encodeText 0 [] text

end Codec.Utf8

end Bytemark
