/-
Module: Bytemark.Proofs.LineCutting
Purpose: Relate taking one line at a time to cutting a whole text.
Trusted boundary: none
Main exports: Lines.split, Lines.unsplit, Lines.map_split, Lines.unsplit_split, Lines.next,
  Lines.next_of_split_cons, Lines.next_of_split_nil, Lines.next_utf8
-/
import Bytemark.Lines
import Bytemark.Proofs.CharacterReading
import Bytemark.Proofs.StreamScript

namespace Bytemark

open Codec

namespace Lines

variable {α : Type} [DecidableEq α] [LineAlphabet α]

open LineAlphabet

/-!
### Lines with their ends

`cut` forgets how a line ended.  Where reading stops between two lines this is
what decides whether half of a terminator is still to come, so the pieces of a
text keep it.
-/

/-- A line and what ended it; only the last line may have no end. -/
abbrev Ended (α : Type) := List α × Option Terminator

/-- Cuts on inside a line whose first elements are `line`, last first, and
keeps the terminators. -/
def splitFrom (line : List α) : List α → List (Ended α)
  | [] => if line.isEmpty then [] else [(line.reverse, none)]
  | [a] =>
      if a == lf then [(line.reverse, some .lf)]
      else if a == cr then [(line.reverse, some .cr)]
      else [((a :: line).reverse, none)]
  | a :: b :: rest =>
      if a == lf then (line.reverse, some .lf) :: splitFrom [] (b :: rest)
      else if a == cr then
        if b == lf then (line.reverse, some .crlf) :: splitFrom [] rest
        else (line.reverse, some .cr) :: splitFrom [] (b :: rest)
      else splitFrom (a :: line) (b :: rest)

/-- The lines of a text, with their terminators beside them. -/
def split (text : List α) : List (Ended α) := splitFrom [] text

/-- The text of a line and its end. -/
def Ended.text (piece : Ended α) : List α :=
  piece.1 ++ piece.2.elim [] terminator

/-- The text that the pieces were cut from. -/
def unsplit (pieces : List (Ended α)) : List α := pieces.flatMap Ended.text

@[simp] theorem unsplit_nil : unsplit ([] : List (Ended α)) = [] := rfl

@[simp] theorem unsplit_cons (piece : Ended α) (rest : List (Ended α)) :
    unsplit (piece :: rest) = piece.text ++ unsplit rest := rfl

/-- The pieces have the lines of the cut. -/
theorem map_splitFrom (line text : List α) :
    (splitFrom line text).map Prod.fst = cutFrom line text := by
  fun_induction splitFrom line text with
  | case1 line empty => simp [cutFrom, empty]
  | case2 line nonempty => simp [cutFrom, nonempty]
  | case3 line a isLf => simp [cutFrom, isTerminator, isLf]
  | case4 line a notLf isCr => simp [cutFrom, isTerminator, isCr]
  | case5 line a notLf notCr => simp [cutFrom, isTerminator, notLf, notCr]
  | case6 line a b rest isLf inductionHypothesis => simp [cutFrom, isLf, inductionHypothesis]
  | case7 line a b rest notLf isCr follows inductionHypothesis =>
      simp [cutFrom, notLf, isCr, follows, inductionHypothesis]
  | case8 line a b rest notLf isCr alone inductionHypothesis =>
      simp [cutFrom, notLf, isCr, alone, inductionHypothesis]
  | case9 line a b rest notLf notCr inductionHypothesis =>
      simp [cutFrom, notLf, notCr, inductionHypothesis]

theorem map_split (text : List α) : (split text).map Prod.fst = cut text := map_splitFrom [] text

/-- No element gets lost between the lines. -/
theorem unsplit_splitFrom (line text : List α) :
    unsplit (splitFrom line text) = line.reverse ++ text := by
  fun_induction splitFrom line text with
  | case1 line empty => simp_all
  | case2 line nonempty => simp [Ended.text]
  | case3 line a isLf => simp_all [Ended.text, terminator]
  | case4 line a notLf isCr => simp_all [Ended.text, terminator]
  | case5 line a notLf notCr => simp [Ended.text]
  | case6 line a b rest isLf inductionHypothesis =>
      simp_all [Ended.text, terminator]
  | case7 line a b rest notLf isCr follows inductionHypothesis =>
      simp_all [Ended.text, terminator]
  | case8 line a b rest notLf isCr alone inductionHypothesis =>
      simp_all [Ended.text, terminator]
  | case9 line a b rest notLf notCr inductionHypothesis => simp [inductionHypothesis]

@[simp] theorem unsplit_split (text : List α) : unsplit (split text) = text :=
  unsplit_splitFrom [] text

/-! ### One line of a script -/

/-- The answer of taking a line off a script, and what is left. -/
structure Next (α : Type) where
  line : Except IoError (Option (List α))
  /-- The line ended with CR, so an LF that comes first is skipped. -/
  skipsLf : Bool
  rest : Script α

/-- Takes the next line off a script, behind what was collected of it so far,
last element first. -/
def next (skipsLf : Bool) (line : List α) : Script α → Next α
  | [] => ⟨.ok (if line.isEmpty then none else some line.reverse), false, []⟩
  | .error cause :: rest => ⟨.error cause, skipsLf, rest⟩
  | .ok a :: rest =>
      if skipsLf && a == lf then next false line rest
      else if isTerminator a then ⟨.ok (some line.reverse), a == cr, rest⟩
      else next false (a :: line) rest

/-- A text without the LF that only completes the terminator before it. -/
def unskipped (skipsLf : Bool) : List α → List α
  | [] => []
  | a :: rest => if skipsLf && a == lf then rest else a :: rest

@[simp] theorem unskipped_false (text : List α) : unskipped false text = text := by
  cases text <;> rfl

theorem lf_beq_cr : ((lf : α) == cr) = false := by simp [lf_ne_cr]

theorem isTerminator_lf : isTerminator (lf : α) = true := by simp [isTerminator]

theorem isTerminator_cr : isTerminator (cr : α) = true := by simp [isTerminator]

theorem ne_lf_of_plain {a : α} (plain : isTerminator a = false) : a ≠ lf := by
  rintro rfl
  rw [isTerminator_lf] at plain
  cases plain

/-- Skipping before a line is the same as not having the LF. -/
theorem next_unskipped (skipsLf : Bool) (text : List α) :
    next skipsLf [] (Script.ofList text) =
      next false [] (Script.ofList (unskipped skipsLf text)) := by
  cases text with
  | nil => rfl
  | cons a rest =>
      cases skipped : skipsLf && a == lf with
      | true => simp [next, unskipped, skipped]
      | false => simp [next, unskipped, skipped]

/-- What is collected of a line goes before the rest of it. -/
theorem next_of_plain {content : List α} (plain : ∀ a ∈ content, isTerminator a = false)
    (line : List α) (rest : Script α) :
    next false line (Script.ofList content ++ rest) =
      next false (content.reverse ++ line) rest := by
  induction content generalizing line with
  | nil => rfl
  | cons a content inductionHypothesis =>
      have head := plain a List.mem_cons_self
      have tail := inductionHypothesis fun b member => plain b (List.mem_cons_of_mem _ member)
      simp [next, head, tail]

/-- As soon as a line has content, nothing is skipped any more. -/
theorem next_skip_of_plain {content : List α} (plain : ∀ a ∈ content, isTerminator a = false)
    (nonempty : content ≠ []) (skipsLf : Bool) (line : List α) (rest : Script α) :
    next skipsLf line (Script.ofList content ++ rest) =
      next false (content.reverse ++ line) rest := by
  cases content with
  | nil => exact absurd rfl nonempty
  | cons a content =>
      have head := plain a List.mem_cons_self
      have other : (a == lf) = false := by simpa using ne_lf_of_plain head
      have tail := next_of_plain
        (fun b member => plain b (List.mem_cons_of_mem _ member)) (a :: line) rest
      simp [next, head, other, tail]

/-- Whether a line ended with CR, alone or before LF. -/
def endsWithCr : Option Terminator → Bool
  | some .cr | some .crlf => true
  | some .lf | none => false

/-- The half of a terminator that is not read with its line. -/
def leftOver : Option Terminator → List α
  | some .crlf => [lf]
  | some .lf | some .cr | none => []

/-!
Taking a line off a text and cutting the text agree.  What is left may begin
with the LF of a CR LF: the next line skips it, so its cut is the same.
-/

/-- Where no line is cut there was nothing to take. -/
theorem next_of_splitFrom_nil {line text : List α} (cutting : splitFrom line text = []) :
    next false line (Script.ofList text) = ⟨.ok none, false, []⟩ := by
  fun_induction splitFrom line text with
  | case1 line empty => simp [next, empty]
  | case9 line a b rest notLf notCr inductionHypothesis =>
      have plain : isTerminator a = false := by simp_all [isTerminator]
      have tail := inductionHypothesis cutting
      simpa [next, plain] using tail
  | _ => simp_all

/-- The line that is cut first is the line that is taken, and the cuts behind
it agree again. -/
theorem next_of_splitFrom_cons {line text first : List α} {ended : Option Terminator}
    {more : List (Ended α)} (cutting : splitFrom line text = (first, ended) :: more) :
    next false line (Script.ofList text) =
        ⟨.ok (some first), endsWithCr ended, Script.ofList (leftOver ended ++ unsplit more)⟩ ∧
      split (unskipped (endsWithCr ended) (leftOver ended ++ unsplit more)) = more := by
  fun_induction splitFrom line text with
  | case1 line empty => cases cutting
  | case2 line nonempty =>
      cases cutting
      simp [next, nonempty, endsWithCr, leftOver, split, splitFrom]
  | case3 line a isLf =>
      cases cutting
      rw [beq_iff_eq] at isLf
      subst isLf
      simp [next, isTerminator_lf, lf_beq_cr, endsWithCr, leftOver, split, splitFrom]
  | case4 line a notLf isCr =>
      cases cutting
      rw [beq_iff_eq] at isCr
      subst isCr
      simp [next, isTerminator_cr, endsWithCr, leftOver, unskipped, split, splitFrom]
  | case5 line a notLf notCr =>
      cases cutting
      have plain : isTerminator a = false := by simp_all [isTerminator]
      simp [next, plain, endsWithCr, leftOver, split, splitFrom]
  | case6 line a b rest isLf inductionHypothesis =>
      cases cutting
      rw [beq_iff_eq] at isLf
      subst isLf
      have whole := unsplit_splitFrom [] (b :: rest)
      simp only [List.reverse_nil, List.nil_append] at whole
      simp [next, isTerminator_lf, lf_beq_cr, endsWithCr, leftOver, whole, split]
  | case7 line a b rest notLf isCr follows inductionHypothesis =>
      cases cutting
      rw [beq_iff_eq] at isCr follows
      subst isCr follows
      have whole := unsplit_splitFrom [] rest
      simp only [List.reverse_nil, List.nil_append] at whole
      simp [next, isTerminator_cr, endsWithCr, leftOver, whole, unskipped, split]
  | case8 line a b rest notLf isCr alone inductionHypothesis =>
      cases cutting
      rw [beq_iff_eq] at isCr
      subst isCr
      have whole := unsplit_splitFrom [] (b :: rest)
      simp only [List.reverse_nil, List.nil_append] at whole
      simp [next, isTerminator_cr, endsWithCr, leftOver, whole, unskipped, split, alone]
  | case9 line a b rest notLf notCr inductionHypothesis =>
      have plain : isTerminator a = false := by simp_all [isTerminator]
      have tail := inductionHypothesis cutting
      rw [Script.ofList_cons, next]
      simpa [plain] using tail

/-- At the end of a text there is no line, and nothing is left. -/
theorem next_of_split_nil {skipsLf : Bool} {text : List α}
    (cutting : split (unskipped skipsLf text) = []) :
    next skipsLf [] (Script.ofList text) = ⟨.ok none, false, []⟩ := by
  rw [next_unskipped]
  exact next_of_splitFrom_nil cutting

/-- Before its end, the first line of the cut is taken. -/
theorem next_of_split_cons {skipsLf : Bool} {text first : List α} {ended : Option Terminator}
    {more : List (Ended α)} (cutting : split (unskipped skipsLf text) = (first, ended) :: more) :
    next skipsLf [] (Script.ofList text) =
        ⟨.ok (some first), endsWithCr ended, Script.ofList (leftOver ended ++ unsplit more)⟩ ∧
      split (unskipped (endsWithCr ended) (leftOver ended ++ unsplit more)) = more := by
  rw [next_unskipped]
  exact next_of_splitFrom_cons cutting

/-! ### Lines in UTF-8 -/

/-- The UTF-8 form of an answer. -/
def Next.utf8 (answer : Next Char) : Next UInt8 :=
  ⟨answer.line.map (Option.map Utf8.encodeText), answer.skipsLf, answer.rest.utf8⟩

theorem toNat_ne_of_plain {c : Char} (plain : isTerminator c = false) :
    c.toNat ≠ 10 ∧ c.toNat ≠ 13 := by
  constructor
  · intro same
    have isLf : c = '\n' := Char.toNat_inj.mp same
    subst isLf
    cases plain
  · intro same
    have isCr : c = '\r' := Char.toNat_inj.mp same
    subst isCr
    cases plain

theorem plain_ofNat {code : Nat} (small : code < 256) (notLf : code ≠ 10) (notCr : code ≠ 13) :
    isTerminator (UInt8.ofNat code) = false := by
  have octet := toNat_ofNat small
  have other : UInt8.ofNat code ≠ LineAlphabet.lf := by
    intro same
    rw [same] at octet
    exact notLf octet.symm
  have another : UInt8.ofNat code ≠ LineAlphabet.cr := by
    intro same
    rw [same] at octet
    exact notCr octet.symm
  simp [isTerminator, other, another]

/-- Only line terminators have the octets of line terminators. -/
theorem plain_encode {c : Char} (plain : isTerminator c = false) :
    ∀ octet ∈ Utf8.encode c, isTerminator octet = false := by
  obtain ⟨notLf, notCr⟩ := toNat_ne_of_plain plain
  have scalar := toNat_isScalar c
  intro octet member
  unfold Utf8.encode at member
  dsimp only at member
  split at member
  · rw [List.mem_singleton.mp member]
    exact plain_ofNat (by omega) notLf notCr
  · split at member
    · simp only [List.mem_cons, List.not_mem_nil, or_false] at member
      rcases member with rfl | rfl <;> exact plain_ofNat (by omega) (by omega) (by omega)
    · split at member
      · simp only [List.mem_cons, List.not_mem_nil, or_false] at member
        rcases member with rfl | rfl | rfl <;> exact plain_ofNat (by omega) (by omega) (by omega)
      · simp only [List.mem_cons, List.not_mem_nil, or_false] at member
        rcases member with rfl | rfl | rfl | rfl <;>
          exact plain_ofNat (by omega) (by omega) (by omega)

theorem encode_ne_nil (c : Char) : Utf8.encode c ≠ [] := by
  unfold Utf8.encode
  dsimp only
  split
  · simp
  · split
    · simp
    · split <;> simp

theorem reverse_encodeText_cons (c : Char) (line : List Char) :
    (Utf8.encodeText (c :: line).reverse).reverse =
      (Utf8.encode c).reverse ++ (Utf8.encodeText line.reverse).reverse := by
  simp [Utf8.encodeText]

/-- Taking a line off the UTF-8 form of a script takes the UTF-8 form of the
line. -/
theorem next_utf8 (skipsLf : Bool) (line : List Char) (script : Script Char) :
    next skipsLf (Utf8.encodeText line.reverse).reverse script.utf8 =
      (next skipsLf line script).utf8 := by
  induction script generalizing skipsLf line with
  | nil =>
      cases line with
      | nil => rfl
      | cons c line =>
          have nonempty : (Utf8.encodeText (c :: line).reverse).reverse.isEmpty = false := by
            rw [reverse_encodeText_cons]
            simp [encode_ne_nil]
          simp only [Script.utf8, next, nonempty]
          simp [Next.utf8, Except.map, Script.utf8]
  | cons event rest inductionHypothesis =>
      cases event with
      | error cause => rfl
      | ok c =>
          rw [Script.utf8]
          cases terminates : isTerminator c with
          | false =>
              have skips : (skipsLf && c == LineAlphabet.lf) = false := by
                simp [ne_lf_of_plain terminates]
              rw [next_skip_of_plain (plain_encode terminates) (encode_ne_nil c),
                ← reverse_encodeText_cons, inductionHypothesis]
              simp [next, skips, terminates]
          | true =>
              -- A terminator is one octet, and that octet is the same terminator.
              have which : c = '\n' ∨ c = '\r' := by
                simpa [isTerminator, LineAlphabet.lf, LineAlphabet.cr] using terminates
              rcases which with rfl | rfl
              · change next skipsLf _ (.ok (10 : UInt8) :: Script.utf8 rest) = _
                cases skipsLf with
                | true => exact inductionHypothesis false line
                | false =>
                    rw [next, if_neg (by simp), if_pos (by decide), List.reverse_reverse]
                    rfl
              · change next skipsLf _ (.ok (13 : UInt8) :: Script.utf8 rest) = _
                rw [next, if_neg (by cases skipsLf <;> decide), if_pos (by decide),
                  List.reverse_reverse]
                cases skipsLf <;> rfl

end Lines

end Bytemark
