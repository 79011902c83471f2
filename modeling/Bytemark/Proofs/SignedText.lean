/-
Module: Bytemark.Proofs.SignedText
Purpose: A text behind the signature of its encoding is read back, two collisions apart.
Trusted boundary: none
Main exports: Codec.unitSize_mul_length_feed_le, Codec.unitSize_mul_length_decode_le,
  Encoding.Collides, Encoding.text_signed_eq_iff
-/
import Bytemark.Proofs.FileReading

namespace Bytemark

open Codec

/-!
A text that is decoded in a wrong encoding may by chance be anything, except too
long: every character costs a code unit.  So the wrong text is told from the
right one by its length alone.
-/

namespace Codec

theorem weight_utf8_start_le (octet : UInt8) :
    (Utf8.start octet).pieces.length + (Utf8.start octet).carry.length ≤ 1 := by
  unfold Utf8.start
  split
  · simp [Reading.done]
  · split <;> simp [Reading.wait, Reading.reject]

theorem weight_utf8_step_le (carry : Octets) (octet : UInt8) :
    (Utf8.step carry octet).pieces.length + (Utf8.step carry octet).carry.length ≤
      carry.length + 1 := by
  have fresh := weight_utf8_start_le octet
  unfold Utf8.step
  split
  · exact fresh
  all_goals
    split
    · first
        | (split <;> simp [Reading.done, Reading.wait])
        | simp [Reading.done]
    · simp only [Reading.afterMalformed, List.length_cons, List.length_nil]
      omega

theorem weight_utf16_start_le (order : ByteOrder) (a b : UInt8) :
    2 * (Utf16.start order a b).pieces.length + (Utf16.start order a b).carry.length ≤ 2 := by
  unfold Utf16.start
  dsimp only
  split
  · simp [Reading.wait]
  · split <;> simp [Reading.done, Reading.reject]

theorem weight_utf16_step_le (order : ByteOrder) (carry : Octets) (octet : UInt8) :
    2 * (Utf16.step order carry octet).pieces.length +
        (Utf16.step order carry octet).carry.length ≤ carry.length + 1 := by
  unfold Utf16.step
  split
  · simp [Reading.wait]
  · exact weight_utf16_start_le _ _ _
  · simp [Reading.wait]
  · rename_i a b c rest
    have fresh := weight_utf16_start_le order c octet
    dsimp only
    split
    · simp [Reading.done]
    · simp only [Reading.afterMalformed, List.length_cons]
      omega

theorem weight_utf32_step_le (order : ByteOrder) (carry : Octets) (octet : UInt8) :
    4 * (Utf32.step order carry octet).pieces.length +
        (Utf32.step order carry octet).carry.length ≤ carry.length + 1 := by
  unfold Utf32.step
  split
  · simp [Reading.wait]
  · simp [Reading.wait]
  · simp [Reading.wait]
  · dsimp only
    split <;> simp [Reading.done, Reading.reject]

/-- The pieces of a step are paid for by the octets that it takes out of what is
carried, a code unit each. -/
theorem weight_step_le (encoding : Encoding) (carry : Octets) (octet : UInt8) :
    encoding.unitSize * (encoding.step carry octet).pieces.length +
        (encoding.step carry octet).carry.length ≤ carry.length + 1 := by
  cases encoding with
  | utf8 =>
      have step := weight_utf8_step_le carry octet
      rwa [Encoding.unitSize, Nat.one_mul]
  | utf16 order => exact weight_utf16_step_le order carry octet
  | utf32 order => exact weight_utf32_step_le order carry octet
  | latin1 => simp [Encoding.step, Encoding.unitSize, Reading.done]

theorem unitSize_mul_length_feed_le (decoder : Decoder) (octets : Octets) :
    decoder.encoding.unitSize * (decoder.feed octets).1.length +
        (decoder.feed octets).2.carry.length ≤ decoder.carry.length + octets.length := by
  induction octets generalizing decoder with
  | nil => simp
  | cons octet rest inductionHypothesis =>
      have head := weight_step_le decoder.encoding decoder.carry octet
      have tail := inductionHypothesis
        { decoder with carry := (decoder.encoding.step decoder.carry octet).carry }
      rw [Decoder.feed_cons]
      simp only [List.length_append, List.length_cons, Nat.mul_add] at *
      omega

end Codec

/-- A decoded text has no more characters than its octets have code units, a
last one that is incomplete counted as one. -/
theorem Encoding.unitSize_mul_length_decode_le (encoding : Encoding) (octets : Octets) :
    encoding.unitSize * (encoding.decode octets).toList.length ≤
      octets.length + (encoding.unitSize - 1) := by
  have fed := unitSize_mul_length_feed_le (Decoder.new encoding) octets
  have positive : 0 < encoding.unitSize := by cases encoding <;> simp [unitSize]
  unfold decode Decoder.decode
  simp only [if_true, String.toList_ofList, List.length_map, List.length_append,
    Decoder.finish]
  change encoding.unitSize * _ + _ ≤ 0 + _ at fed
  cases carried : ((Decoder.new encoding).feed octets).2.carry with
  | nil =>
      simp only [List.isEmpty_nil, if_true, List.length_nil, Nat.add_zero]
      rw [carried] at fed
      simp only [List.length_nil] at fed
      omega
  | cons octet rest =>
      simp only [List.isEmpty_cons, Bool.false_eq_true, if_false, List.length_cons,
        List.length_nil, Nat.mul_add]
      rw [carried] at fed
      simp only [List.length_cons] at fed
      omega

theorem Encoding.length_decode_le (encoding : Encoding) (octets : Octets) :
    (encoding.decode octets).toList.length ≤ octets.length := by
  have bound := encoding.unitSize_mul_length_decode_le octets
  cases encoding <;> simp only [unitSize] at bound <;> omega

theorem Signature.length_pos : ∀ signature ∈ table, 0 < signature.octets.length := by decide

namespace Resolver

theorem text_of_detect {octets : Octets} {signature : Signature}
    (found : Signature.detect octets = some signature) (resolver : Resolver) :
    resolver.text octets =
      signature.encoding.decode (octets.drop signature.octets.length) := by
  rw [text, Resolution.ofOctets, found]
  rfl

theorem text_of_detect_none {octets : Octets} (unmarked : Signature.detect octets = none)
    (resolver : Resolver) : resolver.text octets = resolver.defaultEncoding.decode octets := by
  rw [text, Resolution.ofOctets, unmarked]
  rfl

end Resolver

namespace Encoding

/-! ### Lengths of encoded texts -/

theorem length_encodeFrom_le {encoding : Encoding} {size : Nat}
    (bounded : ∀ c octets, encoding.encodeChar c = some octets → octets.length ≤ size)
    {text : List Char} {octets : Octets} (encoded : encoding.encodeFrom [] text = .ok octets) :
    octets.length ≤ size * text.length := by
  induction text generalizing octets with
  | nil =>
      cases encoded
      exact Nat.zero_le _
  | cons c rest inductionHypothesis =>
      obtain ⟨first, following, character, tail, rfl⟩ := encodeFrom_cons_eq_ok encoded
      have head := bounded c first character
      have behind := inductionHypothesis tail
      rw [List.length_append, List.length_cons, Nat.mul_succ]
      omega

theorem length_encodeChar_latin1_le (c : Char) (octets : Octets)
    (encoded : Encoding.latin1.encodeChar c = some octets) : octets.length ≤ 1 := by
  simp only [encodeChar] at encoded
  split at encoded
  · cases encoded
    exact Nat.le_refl _
  · cases encoded

theorem length_unitOctets (order : ByteOrder) (unit : Nat) :
    (Utf16.unitOctets order unit).length = 2 := by
  cases order <;> rfl

theorem length_encodeChar_utf16_le (order : ByteOrder) (c : Char) (octets : Octets)
    (encoded : (Encoding.utf16 order).encodeChar c = some octets) : octets.length ≤ 4 := by
  cases encoded
  unfold Utf16.encode
  dsimp only
  split
  · rw [length_unitOctets]
    decide
  · rw [List.length_append, length_unitOctets, length_unitOctets]

/-! ### Texts behind a signature -/

/-- The two ways in which a file that was written begins with a signature that
was not written as one.  In UTF-16LE an U+0000 behind the signature makes that
of UTF-32LE; ISO-8859-1 has no signature, so its own text may look like one. -/
def Collides (encoding : Encoding) (text : String) (octets : Octets) : Prop :=
  (encoding = .utf16 .little ∧ text.toList.head? = some (Char.ofNat 0)) ∨
    (encoding = .latin1 ∧ ∃ signature ∈ Signature.table, signature.octets <+: octets)

theorem zero_eq_ofNat_iff {code : Nat} (small : code < 256) :
    0x00 = UInt8.ofNat code ↔ code = 0 := by
  rw [← UInt8.toNat_inj, toNat_ofNat small]
  exact eq_comm

/-- The octets of a character begin with 00 00 only if it is U+0000. -/
theorem zeros_prefix_utf16_iff (c : Char) (rest : Octets) :
    [0x00, 0x00] <+: Utf16.encode .little c ++ rest ↔ c = Char.ofNat 0 := by
  have scalar := toNat_isScalar c
  have null : c = Char.ofNat 0 ↔ c.toNat = 0 := Char.toNat_inj.symm
  rw [null]
  unfold Utf16.encode Utf16.unitOctets
  dsimp only
  split
  · simp only [List.cons_append, List.cons_prefix_cons, List.nil_append, List.nil_prefix,
      and_true]
    rw [zero_eq_ofNat_iff (by omega), zero_eq_ofNat_iff (by omega)]
    omega
  · simp only [List.cons_append, List.cons_prefix_cons, List.nil_append, List.nil_prefix,
      and_true]
    rw [zero_eq_ofNat_iff (by omega), zero_eq_ofNat_iff (by omega)]
    omega

theorem zeros_prefix_iff {text : List Char} {octets : Octets}
    (encoded : (Encoding.utf16 .little).encodeFrom [] text = .ok octets) :
    [0x00, 0x00] <+: octets ↔ text.head? = some (Char.ofNat 0) := by
  cases text with
  | nil =>
      cases encoded
      simp
  | cons c rest =>
      obtain ⟨first, following, character, -, rfl⟩ := encodeFrom_cons_eq_ok encoded
      cases character
      rw [zeros_prefix_utf16_iff, List.head?_cons, Option.some.injEq]

/-- The signature of UTF-16LE before octets that are not 00 00. -/
theorem detect_utf16_little (octets : Octets) :
    Signature.detect (signatureOctets (.utf16 .little) ++ octets) =
      if [0x00, 0x00] <+: octets then some ⟨.utf32 .little, [0xFF, 0xFE, 0x00, 0x00]⟩
      else some ⟨.utf16 .little, [0xFF, 0xFE]⟩ := by
  have long : (⟨.utf32 .little, [0xFF, 0xFE, 0x00, 0x00]⟩ : Signature).marks
      (signatureOctets (.utf16 .little) ++ octets) = true ↔ [0x00, 0x00] <+: octets := by
    rw [Signature.marks_iff]
    exact List.prefix_append_right_inj [0xFF, 0xFE]
  unfold Signature.detect Signature.table
  by_cases zeros : [0x00, 0x00] <+: octets
  · rw [if_pos zeros]
    simp only [List.find?_cons, long.mpr zeros]
  · rw [← long, Bool.not_eq_true] at zeros
    rw [if_neg (by rw [← long, zeros]; exact Bool.false_ne_true)]
    simp only [List.find?_cons, zeros]
    rfl

/-- Every other signature is found again. -/
theorem detect_signed {encoding : Encoding} (marked : encoding ≠ .latin1)
    (other : encoding ≠ .utf16 .little) (octets : Octets) :
    Signature.detect (encoding.signatureOctets ++ octets) =
      some ⟨encoding, encoding.signatureOctets⟩ := by
  cases encoding with
  | utf8 => rfl
  | utf16 order =>
    cases order with
    | big => rfl
    | little => exact absurd rfl other
  | utf32 order => cases order <;> rfl
  | latin1 => exact absurd rfl marked

/-- A text that is taken for UTF-32LE behind its U+0000 is too short. -/
theorem decode_utf32_ne_of_zeros {text : String} {octets : Octets}
    (encoded : (Encoding.utf16 .little).encode text = .ok octets)
    (null : text.toList.head? = some (Char.ofNat 0)) :
    (Encoding.utf32 .little).decode (octets.drop 2) ≠ text := by
  intro same
  have bound := unitSize_mul_length_decode_le (.utf32 .little) (octets.drop 2)
  rw [same] at bound
  unfold encode at encoded
  cases characters : text.toList with
  | nil =>
      rw [characters] at null
      cases null
  | cons c rest =>
      rw [characters] at null encoded bound
      cases null
      obtain ⟨first, following, character, tail, rfl⟩ := encodeFrom_cons_eq_ok encoded
      cases character
      have size := length_encodeFrom_le (length_encodeChar_utf16_le .little) tail
      change 4 * _ ≤ following.length + 3 at bound
      rw [List.length_cons] at bound
      omega

/-- A text that begins with a signature is too short without it. -/
theorem decode_drop_ne_of_begins {text : String} {octets : Octets} {signature : Signature}
    (encoded : Encoding.latin1.encode text = .ok octets) (known : signature ∈ Signature.table)
    (begins : signature.octets <+: octets) :
    signature.encoding.decode (octets.drop signature.octets.length) ≠ text := by
  intro same
  have bound := length_decode_le signature.encoding (octets.drop signature.octets.length)
  have size := length_encodeFrom_le length_encodeChar_latin1_le encoded
  have within := begins.length_le
  have positive := Signature.length_pos signature known
  rw [same, List.length_drop] at bound
  omega

/-- ISO-8859-1 has no signature, and its octets are read as they are unless they
begin with another one's. -/
theorem text_latin1_eq_iff {text : String} {octets : Octets}
    (encoded : Encoding.latin1.encode text = .ok octets) {resolver : Resolver}
    (default : resolver.defaultEncoding = .latin1) :
    resolver.text octets = text ↔ ¬ ∃ signature ∈ Signature.table, signature.octets <+: octets := by
  cases found : Signature.detect octets with
  | some signature =>
      obtain ⟨known, begins⟩ := Signature.prefix_of_detect found
      rw [Resolver.text_of_detect found]
      exact iff_of_false (decode_drop_ne_of_begins encoded known begins)
        (fun apart => apart ⟨signature, known, begins⟩)
  | none =>
      rw [Resolver.text_of_detect_none found, default]
      apply iff_of_true (decode_of_encode encoded)
      rintro ⟨signature, known, begins⟩
      have unmarked := List.find?_eq_none.mp found signature known
      exact unmarked ((Signature.marks_iff signature octets).mpr begins)

theorem text_utf16_little_eq_iff {text : String} {octets : Octets}
    (encoded : (Encoding.utf16 .little).encode text = .ok octets) (resolver : Resolver) :
    resolver.text (signatureOctets (.utf16 .little) ++ octets) = text ↔
      ¬ text.toList.head? = some (Char.ofNat 0) := by
  have detected := detect_utf16_little octets
  have first := zeros_prefix_iff encoded
  by_cases zeros : [0x00, 0x00] <+: octets
  · rw [if_pos zeros] at detected
    rw [Resolver.text_of_detect detected]
    exact iff_of_false (decode_utf32_ne_of_zeros encoded (first.mp zeros))
      (fun apart => apart (first.mp zeros))
  · rw [if_neg zeros] at detected
    rw [Resolver.text_of_detect detected]
    exact iff_of_true (decode_of_encode encoded) (fun null => zeros (first.mpr null))

/-- Reading the octets that a text was written as, behind the signature of its
encoding, gives the text again unless they collide. -/
theorem text_signed_eq_iff {encoding : Encoding} {text : String} {octets : Octets}
    (encoded : encoding.encode text = .ok octets) {resolver : Resolver}
    (unmarked : encoding = .latin1 → resolver.defaultEncoding = .latin1) :
    resolver.text (encoding.signatureOctets ++ octets) = text ↔
      ¬ encoding.Collides text octets := by
  by_cases plain : encoding = .latin1
  · subst plain
    apply (text_latin1_eq_iff encoded (unmarked rfl)).trans
    simp [Collides]
  · by_cases little : encoding = .utf16 .little
    · subst little
      apply (text_utf16_little_eq_iff encoded resolver).trans
      simp [Collides]
    · rw [Resolver.text_of_detect (detect_signed plain little octets), List.drop_left]
      apply iff_of_true (decode_of_encode encoded)
      rintro (⟨same, -⟩ | ⟨same, -⟩)
      · exact little same
      · exact plain same

end Encoding

end Bytemark
