/-
Module: Bytemark.Proofs.TrimmedText
Purpose: What is left of a text without the blanks at its ends.
Trusted boundary: none
Main exports: Text.Trimmed, Text.Trimmed.eq_trim, Text.trimmed_trim, Text.trimmed_iff
-/
import Mathlib.Data.List.Basic
import Mathlib.Data.List.TakeWhile
import Bytemark.Text.Blank

namespace Bytemark.Text

/-!
Trimming is told by its result.  A text has only one part that neither begins nor ends
with a blank and has nothing but blanks around it, and trimming finds that part.
-/

/-- Nothing but blanks. -/
def Blank (text : List Char) : Prop := ∀ c ∈ text, isBlank c = true

/-- The core of a text: there are only blanks around it, and it neither begins nor ends
with one. -/
structure Trimmed (text core : List Char) : Prop where
  within : ∃ front back, text = front ++ core ++ back ∧ Blank front ∧ Blank back
  first : ∀ c ∈ core.head?, isBlank c = false
  last : ∀ c ∈ core.getLast?, isBlank c = false

theorem dropWhile_blank {front : List Char} (blank : Blank front) (rest : List Char) :
    (front ++ rest).dropWhile isBlank = rest.dropWhile isBlank :=
  List.dropWhile_append_of_pos blank

theorem dropWhile_of_first {text : List Char} (first : ∀ c ∈ text.head?, isBlank c = false) :
    text.dropWhile isBlank = text := by
  cases text with
  | nil => rfl
  | cons c rest => exact List.dropWhile_cons_of_neg (Bool.eq_false_iff.mp (first c rfl))

theorem first_of_dropWhile (text : List Char) :
    ∀ c ∈ (text.dropWhile isBlank).head?, isBlank c = false := by
  intro c found
  have stopped := List.head?_dropWhile_not isBlank text
  rw [show (text.dropWhile isBlank).head? = some c from found] at stopped
  exact stopped

/-- The core is what trimming leaves. -/
theorem Trimmed.eq_trim {text core : List Char} (trimmed : Trimmed text core) :
    core = trim text := by
  obtain ⟨⟨front, back, rfl, blank, blankBack⟩, first, last⟩ := trimmed
  have cut : (front ++ core ++ back).dropWhile isBlank = (core ++ back).dropWhile isBlank := by
    rw [List.append_assoc]
    exact dropWhile_blank blank (core ++ back)
  unfold trim
  rw [cut]
  cases core with
  | nil =>
      rw [List.nil_append, List.dropWhile_eq_nil_iff.mpr blankBack]
      rfl
  | cons c rest =>
      have kept : (c :: rest ++ back).dropWhile isBlank = c :: rest ++ back :=
        dropWhile_of_first first
      have cutBack := dropWhile_blank
        (fun c among => blankBack c (List.mem_reverse.mp among) : Blank back.reverse)
        (c :: rest).reverse
      rw [kept, List.reverse_append, cutBack, dropWhile_of_first, List.reverse_reverse]
      rw [List.head?_reverse]
      exact last

/-- Trimming leaves a core. -/
theorem trimmed_trim (text : List Char) : Trimmed text (trim text) := by
  let cut := (text.dropWhile isBlank).reverse.takeWhile isBlank
  have kept : trim text ++ cut.reverse = text.dropWhile isBlank := by
    unfold trim
    rw [← List.reverse_append, List.takeWhile_append_dropWhile, List.reverse_reverse]
  constructor
  · refine ⟨text.takeWhile isBlank, cut.reverse, ?_, ?_, ?_⟩
    · rw [List.append_assoc, kept, List.takeWhile_append_dropWhile]
    · exact fun c among => List.mem_takeWhile_imp among
    · exact fun c among => List.mem_takeWhile_imp (List.mem_reverse.mp among)
  · intro c found
    apply first_of_dropWhile text c
    rw [← kept]
    exact List.mem_head?_append_of_mem_head? found
  · intro c found
    apply first_of_dropWhile (text.dropWhile isBlank).reverse c
    rw [← List.getLast?_reverse]
    exact found

/-- Every text has one core, the one that trimming finds. -/
theorem trimmed_iff {text core : List Char} : Trimmed text core ↔ core = trim text := by
  constructor
  · exact Trimmed.eq_trim
  · rintro rfl
    exact trimmed_trim text

end Bytemark.Text
