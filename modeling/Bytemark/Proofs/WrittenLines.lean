/-
Module: Bytemark.Proofs.WrittenLines
Purpose: Lines that are written one behind the other are cut apart again, and their octets
  do not look like another encoding.
Trusted boundary: none
Main exports: Encoding.PlainLine, writtenLines, Encoding.ofText_writtenLines,
  Encoding.encode_join, Encoding.not_collides_writtenLines, Encoding.encoding_of_signed
-/
import Bytemark.Proofs.RawText
import Bytemark.Proofs.SignedText
import Bytemark.Proofs.WritingCalls

namespace Bytemark

open Lines

/-!
A terminator behind every line keeps the lines apart, whatever stands in them but
terminators.  Only the first line can take part in a signature, as none has a
terminator in it.
-/

/-! ### Cutting -/

namespace Lines

variable {α : Type} [DecidableEq α] [LineAlphabet α]

open LineAlphabet

theorem cutFrom_of_plain {a : α} (plain : isTerminator a = false) (line rest : List α) :
    cutFrom line (a :: rest) = cutFrom (a :: line) rest := by
  obtain ⟨notLf, notCr⟩ := Bool.or_eq_false_iff.mp plain
  cases rest with
  | nil => simp [cutFrom, plain]
  | cons b rest => simp [cutFrom, notLf, notCr]

theorem cutFrom_of_lf (line rest : List α) :
    cutFrom line (lf :: rest) = line.reverse :: cut rest := by
  cases rest with
  | nil => simp [cut, cutFrom, isTerminator_lf]
  | cons b rest => simp [cut, cutFrom]

/-- A line without terminators is cut off at the LF behind it. -/
theorem cut_of_plain {line : List α} (plain : ∀ a ∈ line, isTerminator a = false)
    (rest : List α) : cut (line ++ lf :: rest) = line :: cut rest := by
  have behind : ∀ before : List α,
      cutFrom before (line ++ lf :: rest) = (before.reverse ++ line) :: cut rest := by
    induction line with
    | nil =>
        intro before
        rw [List.nil_append, cutFrom_of_lf, List.append_nil]
    | cons a line inductionHypothesis =>
        intro before
        obtain ⟨first, others⟩ := List.forall_mem_cons.mp plain
        rw [List.cons_append, cutFrom_of_plain first, inductionHypothesis others,
          List.reverse_cons, List.append_assoc]
        rfl
  exact behind []

end Lines

/-- A text without terminators, without U+0000 and, if its encoding has no signature of its
own, without the characters of one at its beginning. -/
structure Encoding.PlainLine (encoding : Encoding) (text : String) : Prop where
  noLf : '\n' ∉ text.toList
  noCr : '\r' ∉ text.toList
  noNull : Char.ofNat 0 ∉ text.toList
  unsigned : encoding = .latin1 → ∀ signature ∈ Signature.table,
    ¬ (Encoding.latin1.decode signature.octets).toList <+: text.toList

/-- The text of lines that are written one behind the other. -/
def writtenLines (lines : List String) : String := String.join (lines.map endedLine)

theorem toList_writtenLines_cons (line : String) (rest : List String) :
    (writtenLines (line :: rest)).toList = line.toList ++ '\n' :: (writtenLines rest).toList := by
  rw [writtenLines, List.map_cons, String.join_cons, endedLine, String.toList_append,
    String.toList_append, List.append_assoc]
  rfl

theorem writtenLines_append (first second : List String) :
    writtenLines (first ++ second) = writtenLines first ++ writtenLines second := by
  rw [writtenLines, List.map_append, String.join_append]
  rfl

namespace Encoding

variable {encoding : Encoding}

theorem PlainLine.isTerminator_eq_false {text : String} (plain : encoding.PlainLine text) :
    ∀ c ∈ text.toList, isTerminator c = false := by
  intro c member
  apply Bool.or_eq_false_iff.mpr
  constructor
  · apply beq_eq_false_iff_ne.mpr
    rintro rfl
    exact plain.noLf member
  · apply beq_eq_false_iff_ne.mpr
    rintro rfl
    exact plain.noCr member

/-- Lines that were written are the lines of the text. -/
theorem ofText_writtenLines {lines : List String}
    (plain : ∀ line ∈ lines, encoding.PlainLine line) :
    Lines.ofText (writtenLines lines) = lines := by
  induction lines with
  | nil => rfl
  | cons line rest inductionHypothesis =>
      obtain ⟨first, others⟩ := List.forall_mem_cons.mp plain
      have cutting := cut_of_plain first.isTerminator_eq_false (writtenLines rest).toList
      have behind := inductionHypothesis others
      unfold Lines.ofText at behind ⊢
      rw [toList_writtenLines_cons]
      change (cut (line.toList ++ LineAlphabet.lf :: (writtenLines rest).toList)).map _ = _
      rw [cutting, List.map_cons, String.ofList_toList, behind]

/-- Texts that all have octets have these as one text, too. -/
theorem encode_join {texts : List String} (all : texts.takeWhile encoding.encodes = texts) :
    encoding.encode (String.join texts) = .ok (encoding.octetsOf texts) := by
  induction texts with
  | nil => rfl
  | cons text rest inductionHypothesis =>
      cases encoded : encoding.encode text with
      | error refusal =>
          rw [List.takeWhile_cons_of_neg (by rw [encodes_of_error encoded]; decide)] at all
          cases all
      | ok octets =>
          rw [List.takeWhile_cons_of_pos (encodes_of_ok encoded)] at all
          have behind := inductionHypothesis (List.cons.inj all).2
          rw [String.join_cons, octetsOf_cons encoded]
          exact encode_append encoded behind

/-! ### Signatures -/

theorem lf_notMem_signature : ∀ signature ∈ Signature.table,
    '\n' ∉ (Encoding.latin1.decode signature.octets).toList := by decide +kernel

theorem encode_decode_signature : ∀ signature ∈ Signature.table,
    Encoding.latin1.encode (Encoding.latin1.decode signature.octets) = .ok signature.octets := by
  decide +kernel

/-- Octets that begin with a signature are a text that begins with its characters. -/
theorem prefix_of_signature {text : String} {octets : Octets} {signature : Signature}
    (encoded : Encoding.latin1.encode text = .ok octets) (known : signature ∈ Signature.table)
    (begins : signature.octets <+: octets) :
    (Encoding.latin1.decode signature.octets).toList <+: text.toList := by
  obtain ⟨rest, rfl⟩ := begins
  have whole := decode_of_encode_append (encode_decode_signature signature known) rest
  rw [decode_of_encode encoded] at whole
  rw [whole, String.toList_append]
  exact List.prefix_append _ _

/-- What begins a text and has no LF begins its first line. -/
theorem prefix_of_prefix_lf {front line rest : List Char} (apart : '\n' ∉ front)
    (begins : front <+: line ++ '\n' :: rest) : front <+: line := by
  rcases List.prefix_or_prefix_of_prefix begins (List.prefix_append line _) with
    within | ⟨tail, rfl⟩
  · exact within
  · cases tail with
    | nil => simp
    | cons c tail =>
        rw [List.prefix_append_right_inj] at begins
        cases (List.cons_prefix_cons.mp begins).1
        exact absurd (List.mem_append_right line List.mem_cons_self) apart

/-- Plain lines are written without the octets of a wrong signature. -/
theorem not_collides_writtenLines {lines : List String} {octets : Octets}
    (plain : ∀ line ∈ lines, encoding.PlainLine line)
    (encoded : encoding.encode (writtenLines lines) = .ok octets) :
    ¬ encoding.Collides (writtenLines lines) octets := by
  cases lines with
  | nil =>
      cases encoded
      rintro (⟨-, null⟩ | ⟨-, signature, known, begins⟩)
      · cases null
      · have positive := Signature.length_pos signature known
        rw [List.prefix_nil.mp begins] at positive
        cases positive
  | cons line rest =>
      have first := plain line List.mem_cons_self
      rintro (⟨-, null⟩ | ⟨rfl, signature, known, begins⟩)
      · rw [toList_writtenLines_cons] at null
        cases characters : line.toList with
        | nil =>
            rw [characters] at null
            cases null
        | cons c others =>
            rw [characters] at null
            cases null
            apply first.noNull
            rw [characters]
            exact List.mem_cons_self
      -- In ISO-8859-1 octets and characters are the same, so the first line would begin with
      -- the characters of the signature.
      · have front := prefix_of_signature encoded known begins
        rw [toList_writtenLines_cons] at front
        exact first.unsigned rfl signature known
          (prefix_of_prefix_lf (lf_notMem_signature signature known) front)

/-- Behind its own signature a text without collisions is resolved as it was written. -/
theorem encoding_of_signed {text : String} {octets : Octets}
    (encoded : encoding.encode text = .ok octets) (apart : ¬ encoding.Collides text octets) :
    (Resolution.ofOctets (encoding.signatureOctets ++ octets) encoding).encoding = encoding := by
  by_cases unmarked : encoding = .latin1
  · subst unmarked
    have nothing : Signature.detect octets = none :=
      Signature.detect_of_unmarked fun signature known begins =>
        apart (.inr ⟨rfl, signature, known, begins⟩)
    change (Resolution.ofOctets octets .latin1).encoding = .latin1
    rw [Resolution.ofOctets, nothing]
  · by_cases little : encoding = .utf16 .little
    · subst little
      have zeros : ¬ [0x00, 0x00] <+: octets :=
        fun zeros => apart (.inl ⟨rfl, (zeros_prefix_iff encoded).mp zeros⟩)
      rw [Resolution.ofOctets, detect_utf16_little, if_neg zeros]
    · rw [Resolution.ofOctets, detect_signed unmarked little]

end Encoding

end Bytemark
