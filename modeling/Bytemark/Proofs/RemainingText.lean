/-
Module: Bytemark.Proofs.RemainingText
Purpose: What is left of a text after lines were read off it, and when part of a
  terminator is among it.
Trusted boundary: none
Main exports: Lines.left, Lines.Torn, ReadCursor.readLines, remaining_text_of_lines
-/
import Bytemark.Proofs.SessionRun

namespace Bytemark

open Lines

/-!
A line reader takes a line as soon as it has seen the CR that ends it, and skips
an LF behind the CR only when it is asked for the next line.  Whoever asks the
text under it for everything that is left goes past the reader, and finds the
LF there.
-/

namespace Lines

section

variable {α : Type} [DecidableEq α] [LineAlphabet α]

/-- What is left behind a number of lines: an LF that belongs to the last of
them, and the lines that were not asked for. -/
def left (text : List α) (pieces : List (Ended α)) : Nat → List α
  | 0 => text
  | last + 1 => leftOver (pieces[last]?.bind Prod.snd) ++ unsplit (pieces.drop (last + 1))

/-- The last of the first lines ended with CR and LF. -/
def Torn (pieces : List (Ended α)) : Nat → Prop
  | 0 => False
  | last + 1 => pieces[last]?.bind Prod.snd = some .crlf

instance (pieces : List (Ended α)) (count : Nat) : Decidable (Torn pieces count) :=
  match count with
  | 0 => inferInstanceAs (Decidable False)
  | last + 1 => inferInstanceAs (Decidable (pieces[last]?.bind Prod.snd = some .crlf))

theorem left_nil (count : Nat) : left [] ([] : List (Ended α)) count = [] := by
  cases count <;> rfl

theorem left_succ_cons (text : List α) (piece : Ended α) (more : List (Ended α)) (count : Nat) :
    left text (piece :: more) (count + 1) =
      left (leftOver piece.2 ++ unsplit more) more count := by
  cases count with
  | zero => rfl
  | succ last => simp [left]

theorem left_of_torn {pieces : List (Ended α)} {count : Nat} (torn : Torn pieces count)
    (text : List α) :
    left text pieces count = LineAlphabet.lf :: unsplit (pieces.drop count) := by
  cases count with
  | zero => exact torn.elim
  | succ last =>
      have crlf : pieces[last]?.bind Prod.snd = some .crlf := torn
      rw [left, crlf]
      rfl

theorem left_of_not_torn {pieces : List (Ended α)} {count : Nat} (whole : ¬ Torn pieces count)
    {text : List α} (parts : unsplit pieces = text) :
    left text pieces count = unsplit (pieces.drop count) := by
  cases count with
  | zero => exact parts.symm
  | succ last =>
      have other : pieces[last]?.bind Prod.snd ≠ some .crlf := whole
      have nothing : leftOver (pieces[last]?.bind Prod.snd) = ([] : List α) := by
        generalize pieces[last]?.bind Prod.snd = ended at other
        cases ended with
        | none => rfl
        | some terminator => cases terminator <;> first | rfl | exact absurd rfl other
      rw [left, nothing, List.nil_append]

/-- Cutting the lines behind the first one again gives the same lines. -/
theorem split_unsplit_of_splitFrom {line text : List α} {piece : Ended α}
    {more : List (Ended α)} (cutting : splitFrom line text = piece :: more) :
    split (unsplit more) = more := by
  fun_induction splitFrom line text with
  | case1 line empty => cases cutting
  | case2 line nonempty => cases cutting; rfl
  | case3 line a isLf => cases cutting; rfl
  | case4 line a notLf isCr => cases cutting; rfl
  | case5 line a notLf notCr => cases cutting; rfl
  | case6 line a b rest isLf inductionHypothesis =>
      cases cutting
      exact congrArg split (unsplit_split (b :: rest))
  | case7 line a b rest notLf isCr follows inductionHypothesis =>
      cases cutting
      exact congrArg split (unsplit_split rest)
  | case8 line a b rest notLf isCr alone inductionHypothesis =>
      cases cutting
      exact congrArg split (unsplit_split (b :: rest))
  | case9 line a b rest notLf notCr inductionHypothesis => exact inductionHypothesis cutting

theorem split_unsplit_drop {text : List α} {pieces : List (Ended α)}
    (cutting : split text = pieces) (count : Nat) :
    split (unsplit (pieces.drop count)) = pieces.drop count := by
  induction count generalizing text pieces with
  | zero =>
      rw [List.drop_zero, ← cutting, unsplit_split]
  | succ count inductionHypothesis =>
      cases pieces with
      | nil => rfl
      | cons piece more => exact inductionHypothesis (split_unsplit_of_splitFrom cutting)

/-- An LF in front is a line of its own. -/
theorem cut_lf_cons (text : List α) : cut (LineAlphabet.lf :: text) = [] :: cut text := by
  cases text with
  | nil => simp [cut, cutFrom, isTerminator]
  | cons a rest => simp [cut, cutFrom]

end

end Lines

/-! ### Readers -/

namespace LineReader

variable {β : Type} [Buffered β] [Scripted β]

/-- After a number of lines the reader holds what is left behind them. -/
theorem holds_afterLines {reader : LineReader β} {text : List Char} {pieces : List (Ended Char)}
    (holds : reader.Holds text) (cutting : split (unskipped reader.skipsLf text) = pieces)
    (count : Nat) : (reader.afterLines count).Holds (left text pieces count) := by
  induction count generalizing reader text pieces with
  | zero => exact holds
  | succ count inductionHypothesis =>
      cases pieces with
      | nil =>
          obtain ⟨-, after, -⟩ := readLine_of_split_nil holds cutting
          have tail : (reader.readLine.2.afterLines count).Holds (left [] [] count) :=
            inductionHypothesis after rfl
          rw [left_nil] at tail
          exact tail
      | cons piece more =>
          obtain ⟨-, after, behind⟩ := readLine_of_split_cons holds cutting
          rw [left_succ_cons]
          exact inductionHypothesis after behind

/-- A visitor that wants to see so many lines, and notes them, last first. -/
def stopAfter (count : Nat) (seen : List String) (line : String) : Visit (List String) :=
  if seen.length + 1 < count then .more (line :: seen) else .stop (line :: seen)

/-- A visitor that stops has seen as many lines as it wanted, or all of them,
and the reader holds what is left behind them. -/
theorem visit_stopAfter {reader : LineReader β} {text : List Char} {pieces : List (Ended Char)}
    (holds : reader.Holds text) (cutting : split (unskipped reader.skipsLf text) = pieces)
    (last : Nat) (seen : List String) :
    (reader.visit (stopAfter (seen.length + (last + 1))) seen).1 =
        ((pieces.take (last + 1)).map fun piece => String.ofList piece.1).reverse ++ seen ∧
      (reader.visit (stopAfter (seen.length + (last + 1))) seen).2.1 = .ok () ∧
      (reader.visit (stopAfter (seen.length + (last + 1))) seen).2.2.Holds
        (left text pieces (last + 1)) := by
  induction pieces generalizing reader text last seen with
  | nil =>
      obtain ⟨answer, rest, -⟩ := readLine_of_split_nil holds cutting
      unfold visit
      split
      · rename_i reading
        rw [reading] at answer
        cases answer
      · rename_i reading
        rw [reading] at rest
        exact ⟨rfl, rfl, rest⟩
      · rename_i reading
        rw [reading] at answer
        cases answer
  | cons piece more inductionHypothesis =>
      obtain ⟨answer, rest, behind⟩ := readLine_of_split_cons holds cutting
      unfold visit
      split
      · rename_i reading
        rw [reading] at answer
        cases answer
      · rename_i reading
        rw [reading] at answer
        cases answer
      · rename_i line after reading
        rw [reading] at answer rest behind
        cases answer
        rw [left_succ_cons]
        cases last with
        | zero =>
            have enough : stopAfter (seen.length + (0 + 1)) seen (String.ofList piece.1) =
                .stop (String.ofList piece.1 :: seen) := by simp [stopAfter]
            rw [enough]
            exact ⟨rfl, rfl, rest⟩
        | succ last =>
            have further : stopAfter (seen.length + (last + 1 + 1)) seen
                (String.ofList piece.1) = .more (String.ofList piece.1 :: seen) := by
              simp [stopAfter]
            have count : seen.length + (last + 1 + 1) =
                (String.ofList piece.1 :: seen).length + (last + 1) := by
              rw [List.length_cons]
              omega
            obtain ⟨noted, outcome, tail⟩ :=
              inductionHypothesis rest behind last (String.ofList piece.1 :: seen)
            rw [further, count]
            refine ⟨noted.trans ?_, outcome, tail⟩
            simp

end LineReader

/-! ### Cursors -/

namespace ReadCursor

/-- Asks for a line so many times, and answers the lines that there were. -/
def readLines (files : FileSystem) : Nat → ReadCursor → Except IoError (List String) × ReadCursor
  | 0, cursor => (.ok [], cursor)
  | count + 1, cursor =>
      match cursor.readLine files with
      | (.error cause, after) => (.error cause, after)
      | (.ok line, after) =>
          ((after.readLines files count).1.map (line.toList ++ ·),
            (after.readLines files count).2)

theorem readLines_of_holds {cursor : ReadCursor} {files : FileSystem} {id : FileId}
    {text : List Char} {pieces : List (Ended Char)} (settled : cursor.Settled id)
    (holds : (cursor.look files).Holds text)
    (cutting : split (unskipped (cursor.look files).skipsLf text) = pieces) (count : Nat) :
    (cursor.readLines files count).1 =
        .ok ((pieces.take count).map fun piece => String.ofList piece.1) ∧
      (cursor.readLines files count).2.look files = (cursor.look files).afterLines count := by
  induction count generalizing cursor text pieces with
  | zero => exact ⟨rfl, rfl⟩
  | succ count inductionHypothesis =>
      obtain ⟨answer, looks, settled'⟩ := readLine_of_settled settled files
      cases reading : cursor.readLine files with
      | mk result after =>
          rw [reading] at answer looks settled'
          dsimp only at answer looks settled'
          cases pieces with
          | nil =>
              obtain ⟨line, rest, plain⟩ := LineReader.readLine_of_split_nil holds cutting
              rw [← looks] at rest plain
              obtain ⟨lines, stands⟩ := inductionHypothesis settled' rest rfl
              rw [line] at answer
              subst answer
              simp only [readLines, reading, lines, stands, looks]
              exact ⟨by simp [Except.map, unskipped, split, splitFrom], rfl⟩
          | cons piece more =>
              obtain ⟨line, rest, behind⟩ := LineReader.readLine_of_split_cons holds cutting
              rw [← looks] at rest behind
              obtain ⟨lines, stands⟩ := inductionHypothesis settled' rest behind
              rw [line] at answer
              subst answer
              simp only [readLines, reading, lines, stands, looks]
              exact ⟨rfl, rfl⟩

end ReadCursor

namespace Lines

theorem ofText_eq_map (text : String) :
    ofText text = (split text.toList).map fun piece => String.ofList piece.1 := by
  rw [ofText, ← map_split, List.map_map]
  rfl

theorem ofText_lf_cons (text : List Char) :
    ofText (String.ofList (LineAlphabet.lf :: text)) = "" :: ofText (String.ofList text) := by
  rw [ofText, ofText, String.toList_ofList, String.toList_ofList, cut_lf_cons]
  rfl

/-- The lines of what is left, behind those that were read, are the lines of
the text unless a terminator is torn. -/
theorem take_append_ofText_left_iff (text : String) (count : Nat) :
    (ofText text).take count ++
        ofText (String.ofList (left text.toList (split text.toList) count)) = ofText text ↔
      ¬ Torn (split text.toList) count := by
  have again := split_unsplit_drop (rfl : split text.toList = _) count
  constructor
  · intro same torn
    -- The LF in front of what is left is one line too many.
    rw [left_of_torn torn, ofText_lf_cons, ofText_eq_map (String.ofList _),
      String.toList_ofList, again, ofText_eq_map] at same
    have lengths := congrArg List.length same
    simp only [List.length_append, List.length_take, List.length_cons, List.length_map,
      List.length_drop] at lengths
    omega
  · intro whole
    rw [left_of_not_torn whole (unsplit_split _), ofText_eq_map (String.ofList _),
      String.toList_ofList, again, ofText_eq_map, ← List.map_take, ← List.map_append,
      List.take_append_drop]

/-- What is left is the rest of the text unless a terminator is torn. -/
theorem left_eq_unsplit_iff (text : List Char) (count : Nat) :
    left text (split text) count = unsplit ((split text).drop count) ↔
      ¬ Torn (split text) count := by
  constructor
  · intro same torn
    rw [left_of_torn torn] at same
    have lengths := congrArg List.length same
    rw [List.length_cons] at lengths
    omega
  · intro whole
    exact left_of_not_torn whole (unsplit_split text)

end Lines

/-- A cursor over a file answers the lines of its text, whether it is asked for
them or shows them to a visitor that stops after as many.  What it has left then
is the text behind these lines, and its lines are those that are missing, exactly
if the last line that was read did not end with CR LF; if it did, the LF comes
first and makes an empty line. -/
theorem remaining_text_of_lines {files : FileSystem} {path : String} {location : Location}
    {id : FileId} (found : files.find path = .ok (location, .file id)) (resolver : Resolver) :
    let text := resolver.text (files.content id)
    let pieces := split text.toList
    ∃ cursor, (ReadCursor.openFile files path resolver).1 = .ok cursor ∧ ∀ count, ∃ rest,
      (cursor.readLines files count).1 = .ok ((ofText text).take count) ∧
      ((cursor.readLines files count).2.readRemaining files).1 = .ok rest ∧
      (0 < count →
        let visited := cursor.visit files (LineReader.stopAfter count) []
        visited.1.reverse = (ofText text).take count ∧ visited.2.1 = .ok () ∧
          (visited.2.2.readRemaining files).1 = .ok rest) ∧
      ((ofText text).take count ++ ofText rest = ofText text ↔ ¬ Torn pieces count) ∧
      (rest.toList = unsplit (pieces.drop count) ↔ ¬ Torn pieces count) ∧
      (Torn pieces count → rest.toList = '\n' :: unsplit (pieces.drop count)) := by
  intro text pieces
  obtain ⟨cursor, opened, -, settled, holds, skips⟩ :=
    ReadCursor.openFile_of_file found resolver
  have cutting : split (unskipped (cursor.look files).skipsLf text.toList) = pieces := by
    rw [skips, unskipped_false]
  refine ⟨cursor, opened, ?_⟩
  intro count
  refine ⟨String.ofList (left text.toList pieces count), ?_, ?_, ?_, ?_, ?_, ?_⟩
  · rw [(ReadCursor.readLines_of_holds settled holds cutting count).1, ofText_eq_map,
      ← List.map_take]
  · have stands := (ReadCursor.readLines_of_holds settled holds cutting count).2
    have left := LineReader.holds_afterLines holds cutting count
    rw [← stands] at left
    exact ReadCursor.readRemaining_of_holds left
  · intro positive visited
    obtain ⟨last, rfl⟩ := Nat.exists_eq_succ_of_ne_zero (Nat.ne_of_gt positive)
    obtain ⟨seen, outcome, stands, -⟩ :=
      ReadCursor.visit_of_settled settled files (LineReader.stopAfter last.succ) []
    obtain ⟨shown, ended, left⟩ := LineReader.visit_stopAfter holds cutting last []
    rw [List.length_nil, Nat.zero_add] at shown ended left
    refine ⟨?_, outcome.trans ended, ?_⟩
    · rw [seen.trans shown, List.append_nil, List.reverse_reverse, ofText_eq_map,
        ← List.map_take]
    · rw [← stands] at left
      exact ReadCursor.readRemaining_of_holds left
  · exact take_append_ofText_left_iff text count
  · rw [String.toList_ofList]
    exact left_eq_unsplit_iff text.toList count
  · intro torn
    rw [String.toList_ofList]
    exact left_of_torn torn _

/-- Behind a line that ended with CR LF, the LF is still there, and counts as a
line. -/
theorem remaining_text_behind_crlf :
    let files := FileSystem.holding "a" [0x61, 0x0D, 0x0A, 0x62]
    ((ReadCursor.openFile files "a" {}).1.map fun cursor =>
        ((cursor.readLines files 1).1, ((cursor.readLines files 1).2.readRemaining files).1)) =
      .ok (.ok ["a"], .ok "\nb") ∧
    ["a"] ++ ofText "\nb" ≠ ofText "a\r\nb" := by
  decide +kernel

theorem remaining_text_of_lines_mixed :
    (FileSystem.holding "a" [0x61, 0x0A, 0x62, 0x0D, 0x0A, 0x63]).find "a" =
        .ok (.ofNames ["a"], .file 0) ∧
      ∃ cursor,
        (ReadCursor.openFile (FileSystem.holding "a" [0x61, 0x0A, 0x62, 0x0D, 0x0A, 0x63]) "a"
          {}).1 = .ok cursor ∧
        ∃ rest,
          ((cursor.readLines (FileSystem.holding "a" [0x61, 0x0A, 0x62, 0x0D, 0x0A, 0x63])
            2).2.readRemaining (FileSystem.holding "a" [0x61, 0x0A, 0x62, 0x0D, 0x0A, 0x63])).1 =
              .ok rest ∧ rest.toList = ['\n', 'c'] := by
  have found : (FileSystem.holding "a" [0x61, 0x0A, 0x62, 0x0D, 0x0A, 0x63]).find "a" =
      .ok (.ofNames ["a"], .file 0) := rfl
  obtain ⟨cursor, opened, remaining⟩ := remaining_text_of_lines found {}
  obtain ⟨rest, -, reads, -, -, -, torn⟩ := remaining 2
  refine ⟨found, cursor, opened, rest, reads, (torn ?_).trans ?_⟩
  · decide +kernel
  · decide +kernel

end Bytemark
