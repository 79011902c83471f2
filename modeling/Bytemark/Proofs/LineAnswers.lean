/-
Module: Bytemark.Proofs.LineAnswers
Purpose: What a reader answers that is asked for line after line, failures or not.
Trusted boundary: none
Main exports: Lines.told, Lines.awaitsLf, Lines.completeLines, Lines.told_stretch,
  Lines.told_ofList, LineReader.answerAt, LineReader.readLine_afterLines_of_script,
  LineReader.readLine_afterLines
-/
import Bytemark.Proofs.LineReading

namespace Bytemark

open Lines

/-!
A reader that is asked on after a failure takes the next line off what is left of its
script.  So its answers are a walk through the script, which loses what was collected
of a line at a failure, and nothing else.
-/

namespace Lines

variable {α : Type} [DecidableEq α] [LineAlphabet α]

open LineAlphabet

/-- Whether an LF behind this text completes a terminator. -/
def awaitsLf (text : List α) : Bool := text.getLast? == some cr

/-- The lines of a text that have an end. -/
def completeLines (text : List α) : List (List α) :=
  ((split text).filter fun piece => piece.2.isSome).map Prod.fst

theorem awaitsLf_cons_cons (a b : α) (text : List α) :
    awaitsLf (a :: b :: text) = awaitsLf (b :: text) := by
  rw [awaitsLf, List.getLast?_cons_cons, awaitsLf]

theorem awaitsLf_lf_cons (text : List α) : awaitsLf (lf :: text) = awaitsLf text := by
  cases text with
  | nil => simp [awaitsLf, lf_ne_cr]
  | cons a text => exact awaitsLf_cons_cons lf a text

theorem awaitsLf_append {text : List α} (nonempty : text ≠ []) (read : List α) :
    awaitsLf (read ++ text) = awaitsLf text := by
  cases last : text.getLast? with
  | none => exact absurd (List.getLast?_eq_none_iff.mp last) nonempty
  | some a =>
      rw [awaitsLf, awaitsLf, List.getLast?_append, last]
      rfl

/-- The answers of taking line after line off a script, the first one behind what was
collected of it so far, last element first.  A failure drops what was collected. -/
def told (skipsLf : Bool) (line : List α) : Script α → List (Except IoError (List α))
  | [] => if line.isEmpty then [] else [.ok line.reverse]
  | .error cause :: rest => .error cause :: told skipsLf [] rest
  | .ok a :: rest =>
      if skipsLf && a == lf then told false line rest
      else if isTerminator a then .ok line.reverse :: told (a == cr) [] rest
      else told false (a :: line) rest

/-- The first answer is that of taking one line, and the others are those of what is
left then. -/
theorem told_eq_next (skipsLf : Bool) (line : List α) (script : Script α) :
    told skipsLf line script =
      let answer := next skipsLf line script
      match answer.line with
      | .ok none => []
      | .ok (some found) => .ok found :: told answer.skipsLf [] answer.rest
      | .error cause => .error cause :: told answer.skipsLf [] answer.rest := by
  induction script generalizing skipsLf line with
  | nil =>
      rw [told, next]
      cases line <;> rfl
  | cons event rest inductionHypothesis =>
      cases event with
      | error cause => rfl
      | ok a =>
          rw [told, next]
          split
          · exact inductionHypothesis false line
          · split
            · rfl
            · exact inductionHypothesis false (a :: line)

/-- There is no line only where nothing is left. -/
theorem rest_of_next_none {skipsLf : Bool} {line : List α} {script : Script α}
    (missing : (next skipsLf line script).line = .ok none) :
    (next skipsLf line script).rest = [] := by
  induction script generalizing skipsLf line with
  | nil => rfl
  | cons event rest inductionHypothesis =>
      cases event with
      | error cause => cases missing
      | ok a =>
          rw [next] at missing ⊢
          by_cases skips : (skipsLf && a == lf) = true
          · rw [if_pos skips] at missing ⊢
            exact inductionHypothesis missing
          · rw [if_neg skips] at missing ⊢
            by_cases ends : isTerminator a = true
            · rw [if_pos ends] at missing
              cases missing
            · rw [if_neg ends] at missing ⊢
              exact inductionHypothesis missing

theorem told_lf (line : List α) (rest : Script α) :
    told false line (.ok lf :: rest) = .ok line.reverse :: told false [] rest := by
  simp [told, isTerminator_lf, lf_beq_cr]

theorem told_cr (skipsLf : Bool) (line : List α) (rest : Script α) :
    told skipsLf line (.ok cr :: rest) = .ok line.reverse :: told true [] rest := by
  simp [told, isTerminator_cr, lf_ne_cr.symm]

theorem told_plain {a : α} (plain : isTerminator a = false) (skipsLf : Bool) (line : List α)
    (rest : Script α) : told skipsLf line (.ok a :: rest) = told false (a :: line) rest := by
  simp [told, plain, ne_lf_of_plain plain]

/-- An LF that is awaited is no line. -/
theorem told_awaited (line : List α) (rest : Script α) :
    told true line (.ok lf :: rest) = told false line rest := by
  simp [told]

theorem told_other {a : α} (other : a ≠ lf) (skipsLf : Bool) (line : List α) (rest : Script α) :
    told skipsLf line (.ok a :: rest) = told false line (.ok a :: rest) := by
  simp [told, other]

/-- The lines in front of a failure are those that have an end, and an LF behind the
failure is awaited if the text in front of it ended with CR. -/
theorem told_error (line text : List α) (cause : IoError) (rest : Script α) :
    told false line (Script.ofList text ++ .error cause :: rest) =
      ((splitFrom line text).filter fun piece => piece.2.isSome).map (fun piece => .ok piece.1) ++
        .error cause :: told (awaitsLf text) [] rest := by
  fun_induction splitFrom line text with
  | case1 line empty => rfl
  | case2 line nonempty => rfl
  | case3 line a isLf =>
      rw [beq_iff_eq] at isLf
      subst isLf
      rw [Script.ofList_cons, List.cons_append, told_lf]
      simp [told, awaitsLf, lf_beq_cr]
  | case4 line a notLf isCr =>
      rw [beq_iff_eq] at isCr
      subst isCr
      rw [Script.ofList_cons, List.cons_append, told_cr]
      simp [told, awaitsLf]
  | case5 line a notLf notCr =>
      have plain : isTerminator a = false := by simp_all [isTerminator]
      rw [Script.ofList_cons, List.cons_append, told_plain plain]
      simp [told, awaitsLf, notCr]
  | case6 line a b more isLf inductionHypothesis =>
      rw [beq_iff_eq] at isLf
      subst isLf
      rw [Script.ofList_cons, List.cons_append, told_lf, inductionHypothesis,
        awaitsLf_lf_cons]
      rfl
  | case7 line a b more notLf isCr follows inductionHypothesis =>
      rw [beq_iff_eq] at isCr follows
      subst isCr follows
      rw [Script.ofList_cons, List.cons_append, told_cr, Script.ofList_cons, List.cons_append,
        told_awaited, inductionHypothesis, awaitsLf_cons_cons, awaitsLf_lf_cons]
      rfl
  | case8 line a b more notLf isCr alone inductionHypothesis =>
      rw [beq_iff_eq] at isCr alone
      subst isCr
      rw [Script.ofList_cons, List.cons_append, told_cr, Script.ofList_cons, List.cons_append,
        told_other alone, ← List.cons_append, ← Script.ofList_cons, inductionHypothesis,
        awaitsLf_cons_cons]
      rfl
  | case9 line a b more notLf notCr inductionHypothesis =>
      have plain : isTerminator a = false := by simp_all [isTerminator]
      rw [Script.ofList_cons, List.cons_append, told_plain plain, inductionHypothesis,
        awaitsLf_cons_cons]

/-- The same for text behind other text. -/
theorem told_stretch (read text : List α) (cause : IoError) (rest : Script α) :
    told (awaitsLf read) [] (Script.ofList text ++ .error cause :: rest) =
      (completeLines (unskipped (awaitsLf read) text)).map .ok ++
        .error cause :: told (awaitsLf (read ++ text)) [] rest := by
  have cutting (text : List α) : told false [] (Script.ofList text ++ .error cause :: rest) =
      (completeLines text).map .ok ++ .error cause :: told (awaitsLf text) [] rest := by
    rw [told_error, completeLines, List.map_map]
    rfl
  cases text with
  | nil =>
      rw [List.append_nil]
      rfl
  | cons a text =>
      rw [awaitsLf_append (List.cons_ne_nil a text)]
      cases awaits : awaitsLf read with
      | false => rw [cutting, unskipped_false]
      | true =>
          by_cases skips : a = lf
          · subst skips
            rw [Script.ofList_cons, List.cons_append, told_awaited, cutting, awaitsLf_lf_cons]
            simp [unskipped]
          · rw [Script.ofList_cons, List.cons_append, told_other skips, ← List.cons_append,
              ← Script.ofList_cons, cutting]
            simp [unskipped, skips]

/-- At the end every line is answered. -/
theorem told_ofList (skipsLf : Bool) (text : List α) :
    told skipsLf [] (Script.ofList text) = (cut (unskipped skipsLf text)).map .ok := by
  rw [← map_split]
  generalize cutting : split (unskipped skipsLf text) = pieces
  induction pieces generalizing skipsLf text with
  | nil =>
      rw [told_eq_next, next_of_split_nil cutting]
      rfl
  | cons piece more inductionHypothesis =>
      obtain ⟨answer, behind⟩ := next_of_split_cons cutting
      rw [told_eq_next, answer]
      exact congrArg (.ok piece.1 :: ·) (inductionHypothesis _ _ behind)

end Lines

/-! ### Readers over a script -/

namespace LineReader

variable {β : Type} [Buffered β] [Scripted β]

/-- A place in a list of answers, as the answer to one call: behind the last one there
is no line. -/
def answerAt (answers : List (Except IoError (List Char))) (count : Nat) :
    Except IoError (Option String) :=
  match answers[count]? with
  | some answer => answer.map fun line => some (String.ofList line)
  | none => .ok none

/-- Calls for a line, one behind the other, go through the answers of the script. -/
theorem readLine_afterLines_of_script {reader : LineReader β} {script : Script Char}
    (sound : Scripted.Sound reader.inner) (same : Scripted.script reader.inner = script.utf8)
    (count : Nat) :
    (reader.afterLines count).readLine.1 = answerAt (told reader.skipsLf [] script) count := by
  induction count generalizing reader script with
  | zero =>
      obtain ⟨line, -, -, -⟩ := readLine_of_script sound same
      change reader.readLine.1 = _
      rw [told_eq_next, line]
      generalize next reader.skipsLf [] script = answer
      rcases answer with ⟨found, skipsLf, left⟩
      cases found with
      | error cause => rfl
      | ok found => cases found <;> rfl
  | succ count inductionHypothesis =>
      obtain ⟨-, skips, rest, sound'⟩ := readLine_of_script sound same
      have tail := inductionHypothesis sound' rest
      have nothing := @rest_of_next_none _ _ _ reader.skipsLf [] script
      rw [skips] at tail
      change (reader.readLine.2.afterLines count).readLine.1 = _
      rw [tail, told_eq_next reader.skipsLf [] script]
      generalize next reader.skipsLf [] script = answer at nothing
      rcases answer with ⟨found, skipsLf, left⟩
      cases found with
      | error cause => rfl
      | ok found =>
          cases found with
          | none =>
              cases nothing rfl
              rfl
          | some found => rfl

/-- The lines that a reader answers one after the other are those of its text,
and there is none ever after. -/
theorem readLine_afterLines {reader : LineReader β} {text : List Char}
    {pieces : List (Ended Char)} (holds : reader.Holds text)
    (cutting : split (unskipped reader.skipsLf text) = pieces) (count : Nat) :
    (reader.afterLines count).readLine.1 =
      .ok (pieces[count]?.map fun piece => String.ofList piece.1) := by
  have script := holds.script.trans (Script.utf8_ofList text).symm
  rw [readLine_afterLines_of_script holds.sound script, told_ofList, ← map_split, cutting,
    answerAt, List.getElem?_map, List.getElem?_map]
  cases pieces[count]? <;> rfl

end LineReader

end Bytemark
