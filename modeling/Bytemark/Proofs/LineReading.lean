/-
Module: Bytemark.Proofs.LineReading
Purpose: A line reader takes the lines of what its buffered reader delivers.
Trusted boundary: none
Main exports: LineReader.collect_eq_next, LineReader.readLine_of_script, LineReader.Holds,
  LineReader.readLine_of_split_cons, LineReader.afterLines, LineReader.visit_of_split,
  LineReader.readLines_of_split
-/
import Bytemark.Stream.LineReader
import Bytemark.Proofs.LineCutting

namespace Bytemark

open Codec Lines

/-- What a visitor has seen when it was shown these lines, or as many of them
as it wanted to see. -/
def Visit.through {σ : Type} (see : σ → String → Visit σ) (state : σ) : List String → σ
  | [] => state
  | line :: rest =>
      match see state line with
      | .stop final => final
      | .more following => Visit.through see following rest

/-- A visitor that notes every line has noted all of them in the end. -/
theorem Visit.through_noting (noted lines : List String) :
    Visit.through (fun seen line => .more (line :: seen)) noted lines = lines.reverse ++ noted := by
  induction lines generalizing noted with
  | nil => rfl
  | cons line rest inductionHypothesis =>
      rw [Visit.through, List.reverse_cons, List.append_assoc]
      exact inductionHypothesis (line :: noted)

namespace LineReader

variable {β : Type} [Buffered β] [Scripted β]

/-!
A line reader works through whole buffers, and a line may begin in one buffer
and end in another.  Its answer is that of taking one line off the script of
the reader under it, one element after the other: buffers do not show.
-/

/-- An answer of a line reader, and the reader after it, as the script says. -/
structure Follows (outcome : Except IoError (Option Octets) × LineReader β)
    (answer : Next UInt8) : Prop where
  line : outcome.1 = answer.line
  skipsLf : outcome.2.skipsLf = answer.skipsLf
  rest : Scripted.script outcome.2.inner = answer.rest
  sound : Scripted.Sound outcome.2.inner

theorem next_skipped (skipsLf : Bool) (line : Octets) {ready : Octets} (nonempty : ready ≠ [])
    (rest : Script UInt8) :
    next skipsLf line (Script.ofList ready ++ rest) =
      next false line (Script.ofList (ready.drop (skipped skipsLf ready)) ++ rest) := by
  cases ready with
  | nil => exact absurd rfl nonempty
  | cons first others =>
      cases skips : skipsLf && first == LineAlphabet.lf with
      | true =>
          have one : skipped skipsLf (first :: others) = 1 := by
            simp [skipped, skips]
          simp [one, next, skips]
      | false =>
          have zero : skipped skipsLf (first :: others) = 0 := by
            simp [skipped, skips]
          simp [zero, next, skips]

/-- The octets of a buffer that stand before its first terminator. -/
theorem next_of_content (line body : Octets) (rest : Script UInt8) :
    next false line (Script.ofList body ++ rest) =
      next false ((body.takeWhile fun octet => !isTerminator octet).reverse ++ line)
        (Script.ofList (body.drop (body.takeWhile fun octet => !isTerminator octet).length) ++
          rest) := by
  have plain : ∀ octet ∈ body.takeWhile fun octet => !isTerminator octet,
      isTerminator octet = false := by
    intro octet member
    have all := List.all_eq_true.mp List.all_takeWhile octet member
    simpa using all
  have whole : body = (body.takeWhile fun octet => !isTerminator octet) ++
      body.drop (body.takeWhile fun octet => !isTerminator octet).length := by
    exact List.prefix_iff_eq_append.mp (List.takeWhile_prefix _) |>.symm
  conv => lhs; rw [whole]
  rw [Script.ofList_append, List.append_assoc, next_of_plain plain]

theorem isTerminator_of_drop {body rest : Octets} {octet : UInt8}
    (behind : body.drop (body.takeWhile fun octet => !isTerminator octet).length =
      octet :: rest) : isTerminator octet = true := by
  induction body with
  | nil => cases behind
  | cons first others inductionHypothesis =>
      cases terminates : isTerminator first with
      | true =>
          rw [List.takeWhile_cons_of_neg (by simp [terminates])] at behind
          cases behind
          exact terminates
      | false =>
          rw [List.takeWhile_cons_of_pos (by simp [terminates])] at behind
          exact inductionHypothesis behind

theorem collect_eq_next {reader : LineReader β} {line : Octets}
    (sound : Scripted.Sound reader.inner) :
    Follows (reader.collect line)
      (next reader.skipsLf line (Scripted.script reader.inner)) := by
  fun_induction collect reader line with
  | case1 reader line cause inner filled =>
      have after := Scripted.sound_fill sound
      rw [filled] at after
      rw [Scripted.script_fail sound filled]
      exact ⟨rfl, rfl, rfl, after⟩
  | case2 reader line inner filled =>
      have after := Scripted.sound_fill sound
      rw [filled] at after
      obtain ⟨rest, front, same, empty, -⟩ := Scripted.script_fill sound filled
      rw [empty rfl] at front
      rw [front] at same ⊢
      exact ⟨rfl, rfl, same, after⟩
  | case3 reader line first others inner filled ready start content terminator rest split =>
      have after := Scripted.sound_fill sound
      rw [filled] at after
      obtain ⟨left, front, -, -, used⟩ := Scripted.script_fill sound filled
      have within : start + content.length + 1 ≤ ready.length := by
        have left := congrArg List.length split
        simp only [List.length_drop, List.length_cons] at left
        omega
      have behind : ready.drop (start + content.length + 1) = rest := by
        rw [← List.drop_drop, split]
        rfl
      rw [← List.drop_drop] at split
      have ends := isTerminator_of_drop split
      rw [front, next_skipped _ _ (List.cons_ne_nil first others), next_of_content, split,
        Script.ofList_cons, List.cons_append, next, if_neg (by simp), if_pos ends]
      refine ⟨rfl, rfl, ?_, Scripted.sound_consume _ after⟩
      rw [used _ within, behind]
  | case4 reader line first others inner filled ready start content split lighter
      inductionHypothesis =>
      have after := Scripted.sound_fill sound
      rw [filled] at after
      obtain ⟨left, front, -, -, used⟩ := Scripted.script_fill sound filled
      rw [← List.drop_drop] at split
      have tail := inductionHypothesis (Scripted.sound_consume _ after)
      rw [used _ (Nat.le_refl _), List.drop_length] at tail
      rw [front, next_skipped _ _ (List.cons_ne_nil first others), next_of_content, split]
      exact tail

/-- A reader over the UTF-8 form of a script takes one line off that script. -/
theorem readLine_of_script {reader : LineReader β} {script : Script Char}
    (sound : Scripted.Sound reader.inner) (same : Scripted.script reader.inner = script.utf8) :
    let answer := next reader.skipsLf [] script
    reader.readLine.1 = answer.line.map (Option.map String.ofList) ∧
      reader.readLine.2.skipsLf = answer.skipsLf ∧
      Scripted.script reader.readLine.2.inner = answer.rest.utf8 ∧
      Scripted.Sound reader.readLine.2.inner := by
  intro answer
  have follows : Follows reader.readOctets
      (next reader.skipsLf [] (Scripted.script reader.inner)) := collect_eq_next sound
  have taken : next reader.skipsLf [] (Scripted.script reader.inner) = answer.utf8 := by
    rw [same]
    exact next_utf8 reader.skipsLf [] script
  rw [taken] at follows
  clear_value answer
  rcases answer with ⟨found, skipsLf, left⟩
  unfold readLine
  cases reading : reader.readOctets with
  | mk result after =>
      rw [reading] at follows
      rcases follows with ⟨line, skips, rest, sound'⟩
      cases line
      cases found with
      | error cause => exact ⟨rfl, skips, rest, sound'⟩
      | ok found =>
          cases found with
          | none => exact ⟨rfl, skips, rest, sound'⟩
          | some found =>
              refine ⟨?_, skips, rest, sound'⟩
              simp only [Except.map, Option.map_some, textOf, Utf8.decode_encodeText]

/-!
### Readers of a text

From here on the reader will deliver a text and no failure.  Its lines are those
of the text, except that an LF at the front may still belong to the line before.
-/

/-- The reader will deliver the UTF-8 form of this text and then end. -/
structure Holds (reader : LineReader β) (text : List Char) : Prop where
  sound : Scripted.Sound reader.inner
  script : Scripted.script reader.inner = Script.ofList (Utf8.encodeText text)

/-- At the end of its text a reader answers that there is no line. -/
theorem readLine_of_split_nil {reader : LineReader β} {text : List Char}
    (holds : reader.Holds text) (cutting : split (unskipped reader.skipsLf text) = []) :
    reader.readLine.1 = .ok none ∧ reader.readLine.2.Holds [] ∧
      reader.readLine.2.skipsLf = false := by
  obtain ⟨line, skips, rest, sound⟩ :=
    readLine_of_script holds.sound (holds.script.trans (Script.utf8_ofList text).symm)
  rw [next_of_split_nil cutting] at line skips rest
  exact ⟨line, ⟨sound, rest⟩, skips⟩

/-- Before its end a reader answers the first line of its text, and stands
before the next one. -/
theorem readLine_of_split_cons {reader : LineReader β} {text first : List Char}
    {ended : Option Terminator} {more : List (Ended Char)} (holds : reader.Holds text)
    (cutting : split (unskipped reader.skipsLf text) = (first, ended) :: more) :
    reader.readLine.1 = .ok (some (String.ofList first)) ∧
      reader.readLine.2.Holds (leftOver ended ++ unsplit more) ∧
      split (unskipped reader.readLine.2.skipsLf (leftOver ended ++ unsplit more)) = more := by
  obtain ⟨answer, behind⟩ := next_of_split_cons cutting
  obtain ⟨line, skips, rest, sound⟩ :=
    readLine_of_script holds.sound (holds.script.trans (Script.utf8_ofList text).symm)
  rw [answer] at line skips rest
  refine ⟨line, ⟨sound, rest.trans (Script.utf8_ofList _)⟩, ?_⟩
  rw [skips]
  exact behind

/-- The reader after a number of lines were asked for. -/
def afterLines (reader : LineReader β) : Nat → LineReader β
  | 0 => reader
  | count + 1 => reader.readLine.2.afterLines count

/-! ### Visitors -/

/-- A visitor is shown the lines of the text. -/
theorem visit_of_split {σ : Type} {reader : LineReader β} {text : List Char}
    {pieces : List (Ended Char)} (holds : reader.Holds text)
    (cutting : split (unskipped reader.skipsLf text) = pieces)
    (see : σ → String → Visit σ) (state : σ) :
    (reader.visit see state).1 =
        Visit.through see state (pieces.map fun piece => String.ofList piece.1) ∧
      (reader.visit see state).2.1 = .ok () := by
  induction pieces generalizing reader text state with
  | nil =>
      obtain ⟨answer, -, -⟩ := readLine_of_split_nil holds cutting
      unfold visit
      split
      · rename_i reading
        rw [reading] at answer
        cases answer
      · exact ⟨rfl, rfl⟩
      · rename_i reading
        rw [reading] at answer
        cases answer
  | cons piece more inductionHypothesis =>
      obtain ⟨answer, after, behind⟩ := readLine_of_split_cons holds cutting
      unfold visit
      split
      · rename_i reading
        rw [reading] at answer
        cases answer
      · rename_i reading
        rw [reading] at answer
        cases answer
      · rename_i line following reading
        rw [reading] at answer after behind
        cases answer
        rw [List.map_cons, Visit.through]
        cases seen : see state (String.ofList piece.1) with
        | stop final => exact ⟨rfl, rfl⟩
        | more next => exact inductionHypothesis after behind next

/-- Read to its end, a reader answers the lines of its text and meets no failure. -/
theorem readLines_of_split {reader : LineReader β} {text : List Char}
    {pieces : List (Ended Char)} (holds : reader.Holds text)
    (cutting : split (unskipped reader.skipsLf text) = pieces) :
    reader.readLines.1 = pieces.map (fun piece => String.ofList piece.1) ∧
      reader.readLines.2.1 = .ok () := by
  obtain ⟨seen, outcome⟩ :=
    visit_of_split holds cutting (fun seen line => .more (line :: seen)) []
  rw [Visit.through_noting, List.append_nil] at seen
  refine ⟨?_, outcome⟩
  change (reader.visit (fun seen line => .more (line :: seen)) []).1.reverse = _
  rw [seen, List.reverse_reverse]

end LineReader

end Bytemark
