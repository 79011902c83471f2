/-
Module: Bytemark.Proofs.OctetLines
Purpose: Lines of any octets, in whatever buffers they come.
Trusted boundary: none
Main exports: Codec.Utf8.decode_eq_ok_iff, Lines.plain_of_mem_cut, LineReader.Answers,
  LineReader.answers_of_split, lines_of_octets
-/
import Bytemark.Proofs.CarriedOctets
import Bytemark.Proofs.LineReading

namespace Bytemark

open Codec Lines

/-!
A line reader looks for terminators among octets, and only then asks whether
the line is UTF-8.  So a line that is not costs a failure in its own place, and
the octets around it are cut as if it were like the others.
-/

namespace Codec.Utf8

/-- The strict reading accepts nothing but the octets of the text that it answers. -/
theorem encodeText_of_decodeFrom {index : Nat} {carry octets : Octets} {read text : List Char}
    (carried : Carried carry) (decoded : decodeFrom index carry read octets = .ok text) :
    ∃ more, text = read.reverse ++ more ∧ encodeText more = carry ++ octets := by
  induction octets generalizing index carry read with
  | nil =>
      cases carry with
      | nil =>
          cases decoded
          exact ⟨[], (List.append_nil _).symm, rfl⟩
      | cons octet rest => cases decoded
  | cons octet rest inductionHypothesis =>
      have turn := turn_step carried octet
      rw [decodeFrom] at decoded
      generalize step carry octet = reading at turn decoded
      cases turn with
      | waits carried =>
          obtain ⟨more, same, whole⟩ := inductionHypothesis carried decoded
          refine ⟨more, same, ?_⟩
          rw [whole, List.append_assoc, List.singleton_append]
      | @completes c written =>
          obtain ⟨more, same, whole⟩ := inductionHypothesis .nothing decoded
          have octets : encode c = carry ++ [octet] := Option.some.inj written
          refine ⟨c :: more, ?_, ?_⟩
          · rw [same, List.reverse_cons, List.append_assoc, List.singleton_append]
          · change encode c ++ encodeText more = _
            rw [octets, whole, List.append_assoc, List.nil_append, List.singleton_append]
      | replaces carried suffix units => cases decoded

/-- Octets are UTF-8 if a text has them, and it is the text that is read. -/
theorem decode_eq_ok_iff {octets : Octets} {text : List Char} :
    decode octets = .ok text ↔ encodeText text = octets := by
  constructor
  · intro decoded
    obtain ⟨more, same, whole⟩ := encodeText_of_decodeFrom .nothing decoded
    rw [same]
    exact whole
  · rintro rfl
    exact decode_encodeText text

end Codec.Utf8

namespace Lines

variable {α : Type} [DecidableEq α] [LineAlphabet α]

/-- What is collected of a line has no terminator in it, and so no line has. -/
theorem plain_of_mem_cutFrom {line text found : List α}
    (plain : ∀ a ∈ line, isTerminator a = false) (member : found ∈ cutFrom line text) :
    ∀ a ∈ found, isTerminator a = false := by
  have reversed : ∀ a ∈ line.reverse, isTerminator a = false :=
    fun a inside => plain a (List.mem_reverse.mp inside)
  fun_induction cutFrom line text with
  | case1 line empty => cases member
  | case2 line nonempty =>
      cases List.mem_singleton.mp member
      exact reversed
  | case3 line a ends =>
      cases List.mem_singleton.mp member
      exact reversed
  | case4 line a goesOn =>
      cases List.mem_singleton.mp member
      intro b inside
      rcases List.mem_cons.mp (List.mem_reverse.mp inside) with rfl | inside
      · simpa using goesOn
      · exact plain b inside
  | case5 line a b rest isLf inductionHypothesis =>
      rcases List.mem_cons.mp member with rfl | member
      · exact reversed
      · exact inductionHypothesis (by simp) member (by simp)
  | case6 line a b rest notLf isCr follows inductionHypothesis =>
      rcases List.mem_cons.mp member with rfl | member
      · exact reversed
      · exact inductionHypothesis (by simp) member (by simp)
  | case7 line a b rest notLf isCr alone inductionHypothesis =>
      rcases List.mem_cons.mp member with rfl | member
      · exact reversed
      · exact inductionHypothesis (by simp) member (by simp)
  | case8 line a b rest notLf notCr inductionHypothesis =>
      have longer : ∀ c ∈ a :: line, isTerminator c = false := by
        intro c inside
        rcases List.mem_cons.mp inside with rfl | inside
        · simp [isTerminator, notLf, notCr]
        · exact plain c inside
      exact inductionHypothesis longer member
        fun c inside => longer c (List.mem_reverse.mp inside)

theorem plain_of_mem_cut {text found : List α} (member : found ∈ cut text) :
    ∀ a ∈ found, isTerminator a = false :=
  plain_of_mem_cutFrom (fun _ inside => absurd inside List.not_mem_nil) member

end Lines

namespace LineReader

variable {β : Type} [Buffered β] [Scripted β]

/-- What a call for a line has to answer: the text of the line if the line is the
UTF-8 form of one, and that the data are invalid if it is not; behind the last line,
that there is none. -/
inductive Answers : Option Octets → Except IoError (Option String) → Prop where
  | ended : Answers none (.ok none)
  | text (line : String) : Answers (some (Utf8.encodeText line.toList)) (.ok (some line))
  | invalid {line : Octets} {cause : IoError} (malformed : ∀ text, Utf8.encodeText text ≠ line)
      (kind : cause.kind = .invalidData) : Answers (some line) (.error cause)

theorem answers_none_iff {answer : Except IoError (Option String)} :
    Answers none answer ↔ answer = .ok none := by
  constructor
  · rintro ⟨⟩
    rfl
  · rintro rfl
    exact .ended

/-- The UTF-8 form of a text is answered with that text. -/
theorem answers_text_iff {line : String} {answer : Except IoError (Option String)} :
    Answers (some (Utf8.encodeText line.toList)) answer ↔ answer = .ok (some line) := by
  constructor
  · intro answers
    generalize written : Utf8.encodeText line.toList = octets at answers
    cases answers with
    | text other =>
        have decoded := Utf8.decode_eq_ok_iff.mpr written
        rw [Utf8.decode_encodeText] at decoded
        rw [String.toList_inj.mp (Except.ok.inj decoded)]
    | invalid malformed kind => exact absurd written (malformed _)
  · rintro rfl
    exact .text line

theorem answers_textOf (line : Octets) : Answers (some line) ((textOf line).map some) := by
  unfold textOf
  cases decoded : Utf8.decode line with
  | ok text =>
      have octets := Utf8.decode_eq_ok_iff.mp decoded
      have answer := Answers.text (String.ofList text)
      rwa [String.toList_ofList, octets] at answer
  | error reason =>
      refine .invalid ?_ rfl
      intro text octets
      rw [Utf8.decode_eq_ok_iff.mpr octets] at decoded
      cases decoded

/-- A reader takes one line off the octets that its script holds, and stands
before what is left of them whether or not the line was UTF-8. -/
theorem readLine_of_octets {reader : LineReader β} (sound : Scripted.Sound reader.inner)
    {found : Option Octets} {skipsLf : Bool} {rest : Script UInt8}
    (taken : next reader.skipsLf [] (Scripted.script reader.inner) =
      ⟨.ok found, skipsLf, rest⟩) :
    Answers found reader.readLine.1 ∧ reader.readLine.2.skipsLf = skipsLf ∧
      Scripted.script reader.readLine.2.inner = rest ∧
      Scripted.Sound reader.readLine.2.inner := by
  have follows : Follows reader.readOctets _ := collect_eq_next sound
  rw [taken] at follows
  unfold readLine
  cases reading : reader.readOctets with
  | mk result after =>
      rw [reading] at follows
      rcases follows with ⟨line, skips, left, sound'⟩
      cases line
      cases found with
      | none => exact ⟨.ended, skips, left, sound'⟩
      | some line => exact ⟨answers_textOf line, skips, left, sound'⟩

/-- Calls for a line, one behind the other, go through the lines of the octets. -/
theorem answers_of_split {reader : LineReader β} {octets : Octets} {pieces : List (Ended UInt8)}
    (sound : Scripted.Sound reader.inner)
    (delivers : Scripted.script reader.inner = Script.ofList octets)
    (cutting : split (unskipped reader.skipsLf octets) = pieces) (count : Nat) :
    Answers (pieces.map Prod.fst)[count]? (reader.afterLines count).readLine.1 := by
  induction count generalizing reader octets pieces with
  | zero =>
      cases pieces with
      | nil =>
          have taken := next_of_split_nil cutting
          rw [← delivers] at taken
          exact (readLine_of_octets sound taken).1
      | cons piece more =>
          have taken := (next_of_split_cons cutting).1
          rw [← delivers] at taken
          exact (readLine_of_octets sound taken).1
  | succ count inductionHypothesis =>
      cases pieces with
      | nil =>
          have taken := next_of_split_nil cutting
          rw [← delivers] at taken
          obtain ⟨-, skips, left, sound'⟩ := readLine_of_octets sound taken
          have ended : Script.ofList ([] : Octets) = [] := rfl
          exact inductionHypothesis sound' (left.trans ended.symm) rfl
      | cons piece more =>
          obtain ⟨taken, behind⟩ := next_of_split_cons cutting
          rw [← delivers] at taken
          obtain ⟨-, skips, left, sound'⟩ := readLine_of_octets sound taken
          rw [← skips] at behind
          exact inductionHypothesis sound' left behind

/-- A text whose octets end no line ends none itself. -/
theorem not_mem_of_plain {line : String}
    (plain : ∀ octet ∈ Utf8.encodeText line.toList, isTerminator octet = false) :
    '\n' ∉ line.toList ∧ '\r' ∉ line.toList := by
  constructor
  · intro member
    have ends := plain 10 (List.mem_flatMap.mpr ⟨'\n', member, List.mem_singleton.mpr rfl⟩)
    cases ends
  · intro member
    have ends := plain 13 (List.mem_flatMap.mpr ⟨'\r', member, List.mem_singleton.mpr rfl⟩)
    cases ends

end LineReader

/-- Over any buffered reader that delivers these octets, in whatever buffers, the calls
for a line answer the lines of the octets one after the other: the text of a line that
is UTF-8, a failure for one that is not and for no other, and then that there is none.
No terminator stands in a line. -/
theorem lines_of_octets {β : Type} [Buffered β] [Scripted β] {inner : β} {octets : Octets}
    (sound : Scripted.Sound inner) (delivers : Scripted.script inner = Script.ofList octets)
    (count : Nat) :
    let answer := ((LineReader.new inner).afterLines count).readLine.1
    LineReader.Answers (cut octets)[count]? answer ∧
      ∀ line, answer = .ok (some line) → '\n' ∉ line.toList ∧ '\r' ∉ line.toList := by
  intro answer
  have answers : LineReader.Answers (cut octets)[count]? answer := by
    have run : LineReader.Answers ((split octets).map Prod.fst)[count]? answer :=
      LineReader.answers_of_split sound delivers (congrArg split (unskipped_false octets)) count
    rwa [map_split] at run
  refine ⟨answers, ?_⟩
  intro line same
  rw [same] at answers
  generalize place : (cut octets)[count]? = found at answers
  cases answers with
  | text =>
      exact LineReader.not_mem_of_plain (plain_of_mem_cut (List.mem_of_getElem? place))

/-- Buffers of one octet and of more, a CR LF that they tear apart, and a line that is
not UTF-8 between two that are. -/
theorem lines_of_octets_torn :
    let inner : BlockReader :=
      { source := ⟨[.data [0x61, 0x0D], .data [0x0A, 0xC3, 0x0D], .data [0xC3], .data [0xA4]]⟩
        capacity := 3 }
    let octets : Octets := [0x61, 0x0D, 0x0A, 0xC3, 0x0D, 0xC3, 0xA4]
    Scripted.Sound inner ∧ Scripted.script inner = Script.ofList octets ∧
      cut octets = [[0x61], [0xC3], [0xC3, 0xA4]] ∧
      ((LineReader.new inner).afterLines 0).readLine.1 = .ok (some "a") ∧
      (∃ cause, ((LineReader.new inner).afterLines 1).readLine.1 = .error cause ∧
        cause.kind = .invalidData) ∧
      ((LineReader.new inner).afterLines 2).readLine.1 = .ok (some "ä") ∧
      ((LineReader.new inner).afterLines 3).readLine.1 = .ok none := by
  intro inner octets
  have sound : Scripted.Sound inner := by
    refine ⟨by decide, ?_⟩
    unfold Source.Solid
    decide
  have delivers : Scripted.script inner = Script.ofList octets := rfl
  have answers (count : Nat) := (lines_of_octets sound delivers count).1
  refine ⟨sound, delivers, by decide, ?_, ?_, ?_, ?_⟩
  · exact LineReader.answers_text_iff.mp (answers 0)
  · have second := answers 1
    generalize ((LineReader.new inner).afterLines 1).readLine.1 = answer at second
    generalize place : (cut octets)[1]? = found at second
    cases second with
    | ended => cases place
    | text line =>
        have decoded := Utf8.decode_encodeText line.toList
        rw [← Option.some.inj place] at decoded
        cases decoded
    | @invalid _ cause malformed kind => exact ⟨cause, rfl, kind⟩
  · exact LineReader.answers_text_iff.mp (answers 2)
  · exact LineReader.answers_none_iff.mp (answers 3)

end Bytemark
