/-
Module: Bytemark.Proofs.JoinedLines
Purpose: Lines that are joined with terminators of any kinds, and cut apart again.
Trusted boundary: none
Main exports: Lines.Joinable, Lines.Swallows, Lines.standing, Lines.told_unsplit,
  Lines.standing_eq_self_iff, joined_lines_are_cut_apart
-/
import Bytemark.Proofs.LineAnswers

namespace Bytemark

open Codec Lines

/-!
A terminator behind every line keeps the lines apart, whichever it is, but for one
pair: CR behind a line and LF behind an empty line next to it look like one CR LF.
Then the empty line is lost, and nothing else is.
-/

namespace Lines

variable {α : Type}

/-- Directly behind a line with CR stands an empty line with LF. -/
def Swallows (pieces : List (Ended α)) : Prop :=
  ∃ line, [(line, some .cr), ([], some .lf)] <:+: pieces

theorem not_swallows_of_length_lt {pieces : List (Ended α)} (short : pieces.length < 2) :
    ¬ Swallows pieces := by
  rintro ⟨line, inside⟩
  have long : 2 ≤ pieces.length := inside.length_le
  omega

/-- The pair stands in front, or it stands among the others. -/
theorem swallows_cons_iff {line : List α} {before : Option Terminator} {piece : Ended α}
    {rest : List (Ended α)} :
    Swallows ((line, before) :: piece :: rest) ↔
      (before = some .cr ∧ piece = ([], some .lf)) ∨ Swallows (piece :: rest) := by
  constructor
  · rintro ⟨other, inside⟩
    rcases List.infix_cons_iff.mp inside with front | behind
    · obtain ⟨same, next⟩ := List.cons_prefix_cons.mp front
      obtain ⟨lost, -⟩ := List.cons_prefix_cons.mp next
      exact .inl ⟨(congrArg Prod.snd same).symm, lost.symm⟩
    · exact .inr ⟨other, behind⟩
  · rintro (⟨rfl, rfl⟩ | ⟨other, behind⟩)
    · exact ⟨line, List.prefix_append _ rest |>.isInfix⟩
    · exact ⟨other, List.infix_cons_iff.mpr (.inr behind)⟩

/-! ### What is left of the lines -/

variable [DecidableEq α]

/-- The lines without the empty ones that have LF and stand directly behind one with
CR; `before` is what ended the line in front of them. -/
def standing (before : Option Terminator) : List (Ended α) → List (Ended α)
  | [] => []
  | piece :: rest =>
      if before = some .cr ∧ piece = ([], some .lf) then standing piece.2 rest
      else piece :: standing piece.2 rest

theorem length_standing_le (before : Option Terminator) (pieces : List (Ended α)) :
    (standing before pieces).length ≤ pieces.length := by
  induction pieces generalizing before with
  | nil => exact Nat.le_refl _
  | cons piece rest inductionHypothesis =>
      have shorter := inductionHypothesis piece.2
      rw [standing]
      split
      · exact Nat.le_succ_of_le shorter
      · exact Nat.succ_le_succ shorter

/-- A line is lost exactly where the pair stands. -/
theorem length_standing_eq_iff (line : List α) (before : Option Terminator)
    (pieces : List (Ended α)) :
    (standing before pieces).length = pieces.length ↔ ¬ Swallows ((line, before) :: pieces) := by
  induction pieces generalizing line before with
  | nil => exact ⟨fun _ => not_swallows_of_length_lt (by simp), fun _ => rfl⟩
  | cons piece rest inductionHypothesis =>
      have shorter := length_standing_le piece.2 rest
      rw [swallows_cons_iff, standing]
      split
      · rename_i lost
        have less : (standing piece.2 rest).length ≠ (piece :: rest).length := by
          rw [List.length_cons]
          omega
        exact ⟨fun same => absurd same less, fun apart => absurd (.inl lost) apart⟩
      · rename_i stands
        simp only [stands, false_or, List.length_cons, Nat.add_right_cancel_iff]
        exact inductionHypothesis piece.1 piece.2

/-- Without the pair no line is taken out. -/
theorem standing_of_not_swallows {line : List α} {before : Option Terminator}
    {pieces : List (Ended α)} (apart : ¬ Swallows ((line, before) :: pieces)) :
    standing before pieces = pieces := by
  induction pieces generalizing line before with
  | nil => rfl
  | cons piece rest inductionHypothesis =>
      rw [swallows_cons_iff, not_or] at apart
      rw [standing, if_neg apart.1, inductionHypothesis apart.2]

/-- The lines are all left if and only if the pair does not stand among them. -/
theorem standing_eq_self_iff {pieces : List (Ended α)} :
    (standing none pieces).map Prod.fst = pieces.map Prod.fst ↔ ¬ Swallows pieces := by
  have front : Swallows (([], none) :: pieces) ↔ Swallows pieces := by
    cases pieces with
    | nil =>
        exact iff_of_false (not_swallows_of_length_lt (by simp))
          (not_swallows_of_length_lt (by simp))
    | cons piece rest => simp [swallows_cons_iff]
  constructor
  · intro same
    have length := congrArg List.length same
    rw [List.length_map, List.length_map] at length
    rw [← front]
    exact (length_standing_eq_iff [] none pieces).mp length
  · intro apart
    rw [← front] at apart
    rw [standing_of_not_swallows apart]

/-! ### Cutting -/

variable [LineAlphabet α]

open LineAlphabet

/-- Lines that no terminator stands in.  Only the last one may have none behind it,
and then it is not empty, as the end of the text would not show it. -/
structure Joinable (pieces : List (Ended α)) : Prop where
  plain : ∀ piece ∈ pieces, lf ∉ piece.1 ∧ cr ∉ piece.1
  ended : ∀ piece ∈ pieces.dropLast, piece.2 ≠ none
  last : ∀ piece ∈ pieces.getLast?, piece.2 = none → piece.1 ≠ []

theorem Joinable.tail {piece : Ended α} {rest : List (Ended α)}
    (joinable : Joinable (piece :: rest)) : Joinable rest := by
  cases rest with
  | nil => exact ⟨by simp, by simp, by simp⟩
  | cons next more =>
      refine ⟨fun other member => joinable.plain other (List.mem_cons_of_mem _ member), ?_, ?_⟩
      · exact fun other member => joinable.ended other (List.mem_cons_of_mem _ member)
      · intro other member
        have deeper : (piece :: next :: more).getLast? = (next :: more).getLast? :=
          List.getLast?_cons_cons
        rw [← deeper] at member
        exact joinable.last other member

theorem isTerminator_eq_false {line : List α} (plain : lf ∉ line ∧ cr ∉ line) :
    ∀ a ∈ line, isTerminator a = false := by
  intro a member
  have notLf : a ≠ lf := fun same => plain.1 (same ▸ member)
  have notCr : a ≠ cr := fun same => plain.2 (same ▸ member)
  simp [isTerminator, notLf, notCr]

/-- A line is collected, and if it is not empty, no LF in it or behind it is skipped. -/
theorem told_of_plain {line : List α} (plain : ∀ a ∈ line, isTerminator a = false)
    (skipsLf : Bool) (before : List α) (rest : Script α) :
    told skipsLf before (Script.ofList line ++ rest) =
      told (skipsLf && line.isEmpty) (line.reverse ++ before) rest := by
  induction line generalizing skipsLf before with
  | nil => simp
  | cons a line inductionHypothesis =>
      obtain ⟨first, others⟩ := List.forall_mem_cons.mp plain
      rw [Script.ofList_cons, List.cons_append, told_plain first, inductionHypothesis others]
      simp

/-- A terminator ends the line, unless it is an LF that is skipped. -/
theorem told_terminator {ended : Terminator} {skipsLf : Bool}
    (ends : ended = .lf → skipsLf = false) (line : List α) (rest : Script α) :
    told skipsLf line (Script.ofList (terminator ended) ++ rest) =
      .ok line.reverse :: told (ended == .cr) [] rest := by
  cases ended with
  | lf =>
      rw [ends rfl]
      exact told_lf line rest
  | crlf =>
      change told skipsLf line (.ok cr :: .ok lf :: rest) = _
      rw [told_cr, told_awaited]
      rfl
  | cr => exact told_cr skipsLf line rest

/-- Joined lines are answered one after the other, but for those that are lost. -/
theorem told_unsplit {pieces : List (Ended α)} (joinable : Joinable pieces)
    (before : Option Terminator) :
    told (before == some .cr) [] (Script.ofList (unsplit pieces)) =
      (standing before pieces).map fun piece => .ok piece.1 := by
  induction pieces generalizing before with
  | nil => rfl
  | cons piece rest inductionHypothesis =>
      rcases piece with ⟨line, ended⟩
      have plain := isTerminator_eq_false (joinable.plain _ List.mem_cons_self)
      cases ended with
      | none =>
          -- Only the last line has no end, and it is not empty.
          have alone : rest = [] := by
            cases rest with
            | nil => rfl
            | cons next more => exact absurd rfl (joinable.ended _ List.mem_cons_self)
          subst alone
          have nonempty : line ≠ [] := joinable.last _ rfl rfl
          have told := told_of_plain plain (before == some .cr) [] []
          rw [List.append_nil, List.append_nil] at told
          simp [Ended.text, standing, told, Lines.told, nonempty]
      | some ended =>
          have behind := inductionHypothesis joinable.tail (some ended)
          rw [unsplit_cons, Ended.text, Option.elim_some, List.append_assoc, Script.ofList_append,
            Script.ofList_append, told_of_plain plain, List.append_nil, standing]
          split
          · rename_i lost
            obtain ⟨rfl, same⟩ := lost
            cases same
            exact (told_awaited [] _).trans behind
          · rename_i stands
            have ends : ended = .lf → ((before == some .cr) && line.isEmpty) = false := by
              rintro rfl
              cases skips : before == some Terminator.cr with
              | false => rfl
              | true =>
                  cases line with
                  | nil => exact absurd ⟨beq_iff_eq.mp skips, rfl⟩ stands
                  | cons a line => rfl
            rw [told_terminator ends, List.reverse_reverse, List.map_cons]
            exact congrArg (.ok line :: ·) behind

/-- The cut of joined lines. -/
theorem cut_unsplit {pieces : List (Ended α)} (joinable : Joinable pieces) :
    cut (unsplit pieces) = (standing none pieces).map Prod.fst := by
  have answers := told_unsplit joinable none
  rw [show (none == some Terminator.cr) = false from rfl, told_ofList, unskipped_false] at answers
  change _ = (standing none pieces).map (Except.ok ∘ Prod.fst) at answers
  rw [← List.map_map] at answers
  exact (List.map_inj_right fun _ _ => Except.ok.inj).mp answers

end Lines

/-- Lines are joined, each with a terminator of its own, and a reader goes through the
text.  It answers the lines without the empty ones that end with LF and stand directly
behind a line that ends with CR; so it answers exactly the lines that were joined if
and only if there is no such pair. -/
theorem joined_lines_are_cut_apart {β : Type} [Buffered β] [Scripted β]
    {pieces : List (Ended Char)} (joinable : Joinable pieces) {inner : β}
    (holds : (LineReader.new inner).Holds (unsplit pieces)) :
    let read := (LineReader.new inner).readLines
    read.2.1 = .ok () ∧
      read.1 = (standing none pieces).map (fun piece => String.ofList piece.1) ∧
      (read.1 = pieces.map (fun piece => String.ofList piece.1) ↔ ¬ Swallows pieces) := by
  intro read
  obtain ⟨lines, outcome⟩ :=
    LineReader.readLines_of_split holds (congrArg split (unskipped_false _))
  have answered : read.1 = ((standing none pieces).map Prod.fst).map String.ofList := by
    rw [← cut_unsplit joinable, ← map_split, List.map_map]
    exact lines
  refine ⟨outcome, by rw [answered, List.map_map]; rfl, ?_⟩
  rw [answered, ← standing_eq_self_iff]
  change _ = pieces.map (String.ofList ∘ Prod.fst) ↔ _
  rw [← List.map_map, List.map_inj_right fun _ _ same => String.ofList_inj.mp same]

/-- CR LF, CR and LF are mixed, the buffers tear two of them apart, the last line has
none, and one empty line is lost. -/
theorem joined_lines_are_cut_apart_torn :
    let pieces : List (Ended Char) :=
      [(['a'], some .crlf), (['b'], some .cr), ([], some .lf), ([], some .lf), ([], some .cr),
        (['c'], none)]
    let inner : BlockReader :=
      { source := ⟨[.data [0x61, 0x0D], .data [0x0A, 0x62, 0x0D], .data [0x0A, 0x0A, 0x0D, 0x63]]⟩
        capacity := 3 }
    Joinable pieces ∧ (LineReader.new inner).Holds (unsplit pieces) ∧ Swallows pieces ∧
      (LineReader.new inner).readLines.1 = ["a", "b", "", "", "c"] := by
  intro pieces inner
  have joinable : Joinable pieces := by
    refine ⟨by decide, by decide, ?_⟩
    intro piece isLast
    cases isLast
    exact fun _ => List.cons_ne_nil _ _
  have sound : Scripted.Sound inner := by
    refine ⟨by decide, ?_⟩
    unfold Source.Solid
    decide
  have holds : (LineReader.new inner).Holds (unsplit pieces) := ⟨sound, rfl⟩
  have swallows : Swallows pieces := ⟨['b'], [(['a'], some .crlf)], _, rfl⟩
  exact ⟨joinable, holds, swallows, (joined_lines_are_cut_apart joinable holds).2.1⟩

end Bytemark
