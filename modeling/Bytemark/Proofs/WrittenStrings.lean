/-
Module: Bytemark.Proofs.WrittenStrings
Purpose: A string is read back from the form in which it is written.
Trusted boundary: none
Main exports: Toml.Shown, Toml.shown_escapeChar, Toml.Apart, Toml.readBasic_escapeLine,
  Toml.readBlock_escapeBlock, Toml.readLiteralBlock_of_apart, Toml.Spelled,
  Toml.spelled_written, Toml.readString_of_spelled
-/
import Bytemark.Toml.Text

namespace Bytemark.Toml

/-!
The form of a string is chosen by the characters in it, so that each form has to be
read back for the strings that it is chosen for.  Two things carry this: how one
character is shown between double quotes, which is the same on one line and over
several, and that three quotes in a row never stand inside a form that ends with them.
-/

/-! ### Texts that may stand in a document -/

/-- No control character but line breaks and tabs stands in the text. -/
def Clear (text : List Char) : Prop := ∀ c ∈ text, isControl c = false

instance (text : List Char) : Decidable (Clear text) := List.decidableBAll _ text

theorem clear_append {first second : List Char} :
    Clear (first ++ second) ↔ Clear first ∧ Clear second := List.forall_mem_append

theorem clear_cons {c : Char} {text : List Char} :
    Clear (c :: text) ↔ isControl c = false ∧ Clear text := List.forall_mem_cons

/-- A text without CR is clean as it is. -/
theorem clean_of_clear {text : List Char} (clear : Clear text) : clean text = some text := by
  fun_induction clean text with
  | case1 => rfl
  | case2 rest inductionHypothesis => exact absurd (clear _ List.mem_cons_self) (by decide)
  | case3 c rest notCrlf control => exact absurd control (by simp [clear _ List.mem_cons_self])
  | case4 c rest notCrlf noControl inductionHypothesis =>
      rw [inductionHypothesis (clear_cons.mp clear).2]
      rfl

/-! ### One character between double quotes -/

/-- The ways to show a character between double quotes. -/
inductive Shown (c : Char) : List Char → Prop where
  | itself (noQuote : c ≠ '"') (noBackslash : c ≠ '\\') (noControl : isControl c = false) :
      Shown c [c]
  | letter {mark : Char} (stands : escaped mark = some c) : Shown c ['\\', mark]
  | code (below : c.toNat < 256) :
      Shown c ['\\', 'u', '0', '0', hexDigit (c.toNat / 16), hexDigit (c.toNat % 16)]

theorem toNat_lt_of_isControl {c : Char} (control : isControl c = true) : c.toNat < 256 := by
  simp only [isControl, Bool.or_eq_true, Bool.and_eq_true, decide_eq_true_eq, beq_iff_eq]
    at control
  omega

theorem eq_ofNat_of_toNat {c : Char} {code : Nat} (same : c.toNat = code) :
    c = Char.ofNat code := by
  rw [← same, Char.ofNat_toNat]

theorem shown_escapeChar {c : Char} (noQuote : c ≠ '"') : Shown c (escapeChar c) := by
  unfold escapeChar
  split
  · rename_i backslash
    rw [beq_iff_eq.mp backslash]
    exact .letter rfl
  rename_i noBackslash
  split
  · rename_i tab
    rw [beq_iff_eq.mp tab]
    exact .letter rfl
  split
  · rename_i cr
    rw [beq_iff_eq.mp cr]
    exact .letter rfl
  split
  · rename_i backspace
    rw [eq_ofNat_of_toNat (beq_iff_eq.mp backspace)]
    exact .letter rfl
  split
  · rename_i feed
    rw [eq_ofNat_of_toNat (beq_iff_eq.mp feed)]
    exact .letter rfl
  split
  · rename_i control
    exact .code (toNat_lt_of_isControl control)
  · rename_i noControl
    exact .itself noQuote (by simpa using noBackslash) (by simpa using noControl)

/-- A letter that stands for a character is not one that announces digits, nor a blank. -/
theorem afterBackslash_of_escaped {mark c : Char} (stands : escaped mark = some c) :
    afterBackslash mark = some (.outside, some c) ∧
      mark ≠ '\n' ∧ mark ≠ ' ' ∧ mark ≠ '\t' ∧ isControl mark = false := by
  unfold escaped at stands
  split at stands
  all_goals first
    | (cases stands; exact ⟨rfl, by decide, by decide, by decide, by decide⟩)
    | cases stands

theorem hexValue_hexDigit {value : Nat} (below : value < 16) :
    hexValue (hexDigit value) = some value ∧ isControl (hexDigit value) = false := by
  have all : ∀ value : Fin 16,
      hexValue (hexDigit value) = some value.val ∧ isControl (hexDigit value) = false := by decide
  exact all ⟨value, below⟩

/-- Four digits, of which two are zero, are read one after the other. -/
theorem afterDigit_code {c : Char} (below : c.toNat < 256) :
    afterBackslash 'u' = some (.digits 4 0, none) ∧
      afterDigit 4 0 '0' = some (.digits 3 0, none) ∧
      afterDigit 3 0 '0' = some (.digits 2 0, none) ∧
      afterDigit 2 0 (hexDigit (c.toNat / 16)) = some (.digits 1 (c.toNat / 16), none) ∧
      afterDigit 1 (c.toNat / 16) (hexDigit (c.toNat % 16)) = some (.outside, some c) := by
  have high : c.toNat / 16 < 16 := by omega
  have low : c.toNat % 16 < 16 := Nat.mod_lt _ (by decide)
  have whole : c.toNat / 16 * 16 + c.toNat % 16 = c.toNat := Nat.div_add_mod' _ _
  have known : scalar c.toNat = some c := by
    have small : c.toNat < 0xD800 := by omega
    simp [scalar, small]
  refine ⟨by decide, by decide, by decide, ?_, ?_⟩
  · simp [afterDigit, (hexValue_hexDigit high).1]
  · simp [afterDigit, (hexValue_hexDigit low).1, whole, known]

/-- What is shown holds no control character. -/
theorem Shown.clear {c : Char} {chars : List Char} (shown : Shown c chars) : Clear chars := by
  unfold Clear
  cases shown with
  | itself noQuote noBackslash noControl => simpa using noControl
  | letter stands =>
      have mark := (afterBackslash_of_escaped stands).2.2.2.2
      have backslash : isControl '\\' = false := by decide
      simp [mark, backslash]
  | code below =>
      have high := (hexValue_hexDigit (show c.toNat / 16 < 16 by omega)).2
      have low := (hexValue_hexDigit (show c.toNat % 16 < 16 by omega)).2
      have marks : isControl '\\' = false ∧ isControl 'u' = false ∧ isControl '0' = false := by
        decide
      simp [marks, high, low]

/-- Only a line break itself shows one. -/
theorem Shown.noBreak {c : Char} {chars : List Char} (shown : Shown c chars)
    (differs : c ≠ '\n') : '\n' ∉ chars := by
  cases shown with
  | itself noQuote noBackslash noControl => simpa using Ne.symm differs
  | letter stands =>
      have mark := (afterBackslash_of_escaped stands).2.1
      simp [Ne.symm mark]
  | code below =>
      have digit {value : Nat} (below : value < 16) : '\n' ≠ hexDigit value := by
        intro same
        have known := (hexValue_hexDigit below).1
        rw [← same] at known
        cases known
      have high := digit (show c.toNat / 16 < 16 by omega)
      have low := digit (show c.toNat % 16 < 16 by omega)
      simp [high, low]

/-- What is shown begins with no quote, so it is not taken for the end. -/
theorem Shown.first {c : Char} {chars : List Char} (shown : Shown c chars) :
    ∃ a more, chars = a :: more ∧ a ≠ '"' := by
  cases shown with
  | itself noQuote noBackslash noControl => exact ⟨c, [], rfl, noQuote⟩
  | letter stands => exact ⟨_, _, rfl, by decide⟩
  | code below => exact ⟨_, _, rfl, by decide⟩

/-! ### Strings on one line -/

theorem readBasic_of_shown {c : Char} {chars : List Char} (shown : Shown c chars)
    (noBreak : '\n' ∉ chars) (read rest : List Char) :
    readBasic .outside read (chars ++ rest) = readBasic .outside (c :: read) rest := by
  cases shown with
  | itself noQuote noBackslash noControl =>
      have others : c ≠ '\n' := fun same => noBreak (List.mem_singleton.mpr same.symm)
      simp [readBasic, noQuote, noBackslash, others]
  | letter stands => simp [readBasic, (afterBackslash_of_escaped stands).1, push]
  | code below =>
      obtain ⟨announced, first, second, third, last⟩ := afterDigit_code below
      simp [readBasic, announced, first, second, third, last, push]

/-- On one line every character is shown, and no line break stands among them. -/
theorem escapeLine_cons (c : Char) (text : List Char) :
    ∃ chars, Shown c chars ∧ '\n' ∉ chars ∧ escapeLine (c :: text) = chars ++ escapeLine text := by
  by_cases isBreak : c = '\n'
  · subst isBreak
    exact ⟨_, .letter rfl, by decide, rfl⟩
  by_cases isQuote : c = '"'
  · subst isQuote
    exact ⟨_, .letter rfl, by decide, rfl⟩
  · have shown := shown_escapeChar isQuote
    refine ⟨_, shown, shown.noBreak isBreak, ?_⟩
    simp [escapeLine, isBreak, isQuote]

/-- The inside of a string on one line is read up to the quote behind it. -/
theorem readBasic_escapeLine (text read rest : List Char) :
    readBasic .outside read (escapeLine text ++ '"' :: rest) =
      some (read.reverse ++ text, rest) := by
  induction text generalizing read with
  | nil => simp [escapeLine, readBasic]
  | cons c text inductionHypothesis =>
      obtain ⟨chars, shown, noBreak, same⟩ := escapeLine_cons c text
      rw [same, List.append_assoc, readBasic_of_shown shown noBreak, inductionHypothesis,
        List.reverse_cons, List.append_assoc, List.singleton_append]

theorem clear_escapeLine (text : List Char) : Clear (escapeLine text) := by
  induction text with
  | nil => exact fun a member => absurd member List.not_mem_nil
  | cons c text inductionHypothesis =>
      obtain ⟨chars, shown, -, same⟩ := escapeLine_cons c text
      rw [same, clear_append]
      exact ⟨shown.clear, inductionHypothesis⟩

/-- Without quotes and line breaks, a string on one line needs no escapes but those of
its characters. -/
theorem escapeLine_of_plain {text : List Char} (noBreak : '\n' ∉ text) (noQuote : '"' ∉ text) :
    escapeLine text = text.flatMap escapeChar := by
  refine congrArg List.flatten (List.map_congr_left fun c member => ?_)
  have others : c ≠ '\n' ∧ c ≠ '"' :=
    ⟨fun same => noBreak (same ▸ member), fun same => noQuote (same ▸ member)⟩
  simp [others]

theorem readLiteral_of_plain {text : List Char} (noBreak : '\n' ∉ text) (noQuote : '\'' ∉ text)
    (read rest : List Char) :
    readLiteral read (text ++ '\'' :: rest) = some (read.reverse ++ text, rest) := by
  induction text generalizing read with
  | nil => simp [readLiteral]
  | cons c text inductionHypothesis =>
      rw [List.mem_cons, not_or] at noBreak noQuote
      have others : c ≠ '\n' ∧ c ≠ '\'' := ⟨Ne.symm noBreak.1, Ne.symm noQuote.1⟩
      simp [readLiteral, others, inductionHypothesis noBreak.2 noQuote.2]

/-! ### Strings over several lines -/

/-- Behind so many quotes in a row, the text never makes three of them. -/
inductive Apart (quote : Char) : Nat → List Char → Prop where
  | nil {quotes : Nat} (few : quotes ≤ 2) : Apart quote quotes []
  | quote {quotes : Nat} {rest : List Char} (few : quotes < 2)
      (behind : Apart quote (quotes + 1) rest) : Apart quote quotes (quote :: rest)
  | other {quotes : Nat} {c : Char} {rest : List Char} (few : quotes ≤ 2) (differs : c ≠ quote)
      (behind : Apart quote 0 rest) : Apart quote quotes (c :: rest)

theorem hasThree_of_tail {quote c : Char} {text : List Char}
    (apart : hasThree quote (c :: text) = false) : hasThree quote text = false := by
  rw [hasThree, Bool.or_eq_false_iff] at apart
  exact apart.2

theorem hasThree_of_append {quote : Char} {front text : List Char}
    (apart : hasThree quote (front ++ text) = false) : hasThree quote text = false := by
  induction front with
  | nil => exact apart
  | cons c front inductionHypothesis => exact inductionHypothesis (hasThree_of_tail apart)

theorem apart_of_not_hasThree {quote : Char} {text : List Char} {quotes : Nat} (few : quotes ≤ 2)
    (apart : hasThree quote (List.replicate quotes quote ++ text) = false) :
    Apart quote quotes text := by
  induction text generalizing quotes with
  | nil => exact .nil few
  | cons c text inductionHypothesis =>
      by_cases isQuote : c = quote
      · subst isQuote
        have fewer : quotes < 2 := by
          refine Nat.lt_of_le_of_ne few ?_
          rintro rfl
          simp [hasThree, List.replicate] at apart
        have same : List.replicate quotes c ++ c :: text =
            List.replicate (quotes + 1) c ++ text := by
          rw [List.replicate_succ', List.append_assoc, List.singleton_append]
        rw [same] at apart
        exact .quote fewer (inductionHypothesis fewer apart)
      · exact .other few isQuote
          (inductionHypothesis (Nat.zero_le _) (hasThree_of_tail (hasThree_of_append apart)))

/-- A text that never makes three quotes needs no quote escaped. -/
theorem escapeBlock_of_apart {quotes : Nat} {text : List Char} (apart : Apart '"' quotes text) :
    escapeBlock quotes text = text.flatMap escapeChar := by
  induction apart with
  | nil few => rfl
  | @quote quotes rest few behind inductionHypothesis =>
      have fewer : (quotes == 2) = false := beq_eq_false_iff_ne.mpr (by omega)
      have itself : escapeChar '"' = ['"'] := by decide
      simp [escapeBlock, fewer, itself, inductionHypothesis]
  | other few differs behind inductionHypothesis =>
      simp [escapeBlock, differs, inductionHypothesis]

/-- Over several lines, a character is shown, or it is one quote more in a row. -/
theorem escapeBlock_cons (quotes : Nat) (c : Char) (text : List Char) :
    (∃ chars, Shown c chars ∧ escapeBlock quotes (c :: text) = chars ++ escapeBlock 0 text) ∨
      c = '"' ∧ quotes ≠ 2 ∧
        escapeBlock quotes (c :: text) = '"' :: escapeBlock (quotes + 1) text := by
  by_cases isQuote : c = '"'
  · subst isQuote
    by_cases third : quotes = 2
    · subst third
      exact .inl ⟨_, .letter rfl, rfl⟩
    · exact .inr ⟨rfl, third, by simp [escapeBlock, third]⟩
  · exact .inl ⟨_, shown_escapeChar isQuote, by simp [escapeBlock, isQuote]⟩

theorem clear_escapeBlock (quotes : Nat) (text : List Char) : Clear (escapeBlock quotes text) := by
  induction text generalizing quotes with
  | nil => exact fun a member => absurd member List.not_mem_nil
  | cons c text inductionHypothesis =>
      rcases escapeBlock_cons quotes c text with ⟨chars, shown, same⟩ | ⟨-, -, same⟩
      · rw [same, clear_append]
        exact ⟨shown.clear, inductionHypothesis 0⟩
      · rw [same, clear_cons]
        exact ⟨by decide, inductionHypothesis _⟩

theorem noBreak_escapeBlock {text : List Char} (noBreak : '\n' ∉ text) (quotes : Nat) :
    '\n' ∉ escapeBlock quotes text := by
  induction text generalizing quotes with
  | nil => exact List.not_mem_nil
  | cons c text inductionHypothesis =>
      rw [List.mem_cons, not_or] at noBreak
      rcases escapeBlock_cons quotes c text with ⟨chars, shown, same⟩ | ⟨-, -, same⟩
      · rw [same, List.mem_append, not_or]
        exact ⟨shown.noBreak (Ne.symm noBreak.1), inductionHypothesis noBreak.2 0⟩
      · rw [same, List.mem_cons, not_or]
        exact ⟨by decide, inductionHypothesis noBreak.2 _⟩

theorem readBlock_of_shown {c : Char} {chars : List Char} (shown : Shown c chars) {quotes : Nat}
    (few : quotes ≤ 2) (read rest : List Char) :
    readBlock .outside quotes read (chars ++ rest) =
      readBlock .outside 0 (c :: keepQuotes '"' quotes read) rest := by
  have fewer : ¬ 3 ≤ quotes := by omega
  cases shown with
  | itself noQuote noBackslash noControl => simp [readBlock, noQuote, noBackslash, fewer]
  | letter stands =>
      obtain ⟨after, noBreak, noBlank, noTab, -⟩ := afterBackslash_of_escaped stands
      simp [readBlock, fewer, after, noBreak, noBlank, noTab, push]
  | code below =>
      obtain ⟨announced, first, second, third, last⟩ := afterDigit_code below
      simp [readBlock, fewer, announced, first, second, third, last, push]

/-- One quote more in a row is one character more. -/
theorem reverse_keepQuotes_succ (quote : Char) (quotes : Nat) (read text : List Char) :
    (keepQuotes quote (quotes + 1) read).reverse ++ text =
      (keepQuotes quote quotes read).reverse ++ quote :: text := by
  simp [keepQuotes, List.replicate_succ]

theorem reverse_cons_keepQuotes (quote c : Char) (quotes : Nat) (read text : List Char) :
    (keepQuotes quote 0 (c :: keepQuotes quote quotes read)).reverse ++ text =
      (keepQuotes quote quotes read).reverse ++ c :: text := by
  simp [keepQuotes]

/-- Three quotes end the string, and those in front of them in the same row belong to it. -/
theorem readBlock_closing {quotes : Nat} (few : quotes ≤ 2) (read : List Char) {rest : List Char}
    (ended : rest.head? ≠ some '"') :
    readBlock .outside quotes read ('"' :: '"' :: '"' :: rest) =
      some ((keepQuotes '"' quotes read).reverse, rest) := by
  have row : quotes = 0 ∨ quotes = 1 ∨ quotes = 2 := by omega
  cases rest with
  | nil => rcases row with rfl | rfl | rfl <;> rfl
  | cons c rest =>
      have other : c ≠ '"' := by simpa using ended
      rcases row with rfl | rfl | rfl <;> simp [readBlock, other]

/-- The inside of a string over several lines is read up to the quotes behind it. -/
theorem readBlock_escapeBlock {quotes : Nat} (few : quotes ≤ 2) (text read : List Char)
    {rest : List Char} (ended : rest.head? ≠ some '"') :
    readBlock .outside quotes read (escapeBlock quotes text ++ '"' :: '"' :: '"' :: rest) =
      some ((keepQuotes '"' quotes read).reverse ++ text, rest) := by
  induction text generalizing quotes read with
  | nil =>
      rw [List.append_nil]
      exact readBlock_closing few read ended
  | cons c text inductionHypothesis =>
      -- Reader and writer count the quotes of a row alike, so the third is always escaped.
      rcases escapeBlock_cons quotes c text with ⟨chars, shown, same⟩ | ⟨rfl, notThird, same⟩
      · rw [same, List.append_assoc, readBlock_of_shown shown few,
          inductionHypothesis (Nat.zero_le _), reverse_cons_keepQuotes]
      · have less : quotes < 2 := Nat.lt_of_le_of_ne few notThird
        have notFifth : quotes ≠ 4 := by omega
        have goesOn (behind : List Char) : readBlock .outside quotes read ('"' :: behind) =
            readBlock .outside (quotes + 1) read behind := by
          simp [readBlock, notFifth]
        rw [same, List.cons_append, goesOn, inductionHypothesis less, reverse_keepQuotes_succ]

theorem readLiteralBlock_closing {quotes : Nat} (few : quotes ≤ 2) (read : List Char)
    {rest : List Char} (ended : rest.head? ≠ some '\'') :
    readLiteralBlock quotes read ('\'' :: '\'' :: '\'' :: rest) =
      some ((keepQuotes '\'' quotes read).reverse, rest) := by
  have row : quotes = 0 ∨ quotes = 1 ∨ quotes = 2 := by omega
  cases rest with
  | nil => rcases row with rfl | rfl | rfl <;> rfl
  | cons c rest =>
      have other : c ≠ '\'' := by simpa using ended
      rcases row with rfl | rfl | rfl <;> simp [readLiteralBlock, other]

/-- A string between single quotes over several lines is read up to the quotes behind it. -/
theorem readLiteralBlock_of_apart {quotes : Nat} {text : List Char}
    (apart : Apart '\'' quotes text) (read : List Char) {rest : List Char}
    (ended : rest.head? ≠ some '\'') :
    readLiteralBlock quotes read (text ++ '\'' :: '\'' :: '\'' :: rest) =
      some ((keepQuotes '\'' quotes read).reverse ++ text, rest) := by
  induction apart generalizing read with
  | nil few =>
      rw [List.append_nil]
      exact readLiteralBlock_closing few read ended
  | @quote quotes text few behind inductionHypothesis =>
      have notFifth : quotes ≠ 4 := by omega
      rw [List.cons_append, readLiteralBlock]
      simp only [beq_self_eq_true, if_true, beq_iff_eq, notFifth, if_false]
      rw [inductionHypothesis, reverse_keepQuotes_succ]
  | @other quotes c text few differs behind inductionHypothesis =>
      have fewer : ¬ 3 ≤ quotes := by omega
      rw [List.cons_append, readLiteralBlock, if_neg (by simpa using differs), if_neg fewer,
        inductionHypothesis, reverse_cons_keepQuotes]

/-! ### The forms -/

/-- What is true of the strings that are written in a form. -/
def Form.Fits (text : List Char) : Form → Prop
  | .plain => '\n' ∉ text ∧ '"' ∉ text
  | .literal => '\n' ∉ text ∧ '\'' ∉ text ∧ Clear text
  | .block => hasThree '"' text = false
  | .literalBlock => hasThree '\'' text = false ∧ Clear text
  | .escapedBlock | .escapedPlain => True

theorem not_mem_of_contains {c : Char} {text : List Char} (without : (!text.contains c) = true) :
    c ∉ text := by
  simpa using without

theorem clear_of_any {text : List Char} (without : (!text.any isControl) = true) :
    Clear text := by
  simpa [Clear] using without

/-- The form that is chosen for a string is one that it fits into. -/
theorem Form.fits_of (text : List Char) : (Form.of text).Fits text := by
  unfold Form.of
  dsimp only
  split
  · rename_i chosen
    simp only [Bool.and_eq_true] at chosen
    exact ⟨not_mem_of_contains chosen.1.1.1, not_mem_of_contains chosen.1.2⟩
  split
  · rename_i chosen
    simp only [Bool.and_eq_true] at chosen
    exact ⟨not_mem_of_contains chosen.1.1, not_mem_of_contains chosen.2,
      clear_of_any chosen.1.2⟩
  split
  · rename_i chosen
    simp only [Bool.and_eq_true] at chosen
    exact (Bool.not_eq_true' _).mp chosen.2
  split
  · rename_i chosen
    simp only [Bool.and_eq_true] at chosen
    exact ⟨(Bool.not_eq_true' _).mp chosen.2, clear_of_any chosen.1⟩
  split
  · exact trivial
  · exact trivial

/-- The texts that a string is written as.  Where nothing has to be escaped, a form
with escapes and one without give the same text, so four kinds are left. -/
inductive Spelled (text : List Char) : List Char → Prop where
  | line : Spelled text ('"' :: (escapeLine text ++ ['"']))
  | literal (noBreak : '\n' ∉ text) (noQuote : '\'' ∉ text) (clear : Clear text) :
      Spelled text ('\'' :: (text ++ ['\'']))
  | block : Spelled text (['"', '"', '"'] ++ opening text ++ escapeBlock 0 text ++
      ['"', '"', '"'])
  | literalBlock (apart : Apart '\'' 0 text) (clear : Clear text) :
      Spelled text (['\'', '\'', '\''] ++ opening text ++ text ++ ['\'', '\'', '\''])

theorem spelled_written (text : List Char) : Spelled text (written text) := by
  have fits := Form.fits_of text
  unfold written
  cases chosen : Form.of text with
  | plain =>
      rw [chosen] at fits
      dsimp only
      rw [← escapeLine_of_plain fits.1 fits.2]
      exact .line
  | literal =>
      rw [chosen] at fits
      exact .literal fits.1 fits.2.1 fits.2.2
  | block =>
      rw [chosen] at fits
      dsimp only
      rw [← escapeBlock_of_apart (apart_of_not_hasThree (Nat.zero_le _) fits)]
      exact .block
  | literalBlock =>
      rw [chosen] at fits
      exact .literalBlock (apart_of_not_hasThree (Nat.zero_le _) fits.1) fits.2
  | escapedBlock => exact .block
  | escapedPlain => exact .line

theorem clear_opening (text : List Char) : Clear (opening text) := by
  unfold opening
  split <;> decide

/-- A written string may stand in a document. -/
theorem Spelled.clear {text chars : List Char} (spelled : Spelled text chars) : Clear chars := by
  cases spelled with
  | line =>
      rw [clear_cons, clear_append]
      exact ⟨by decide, clear_escapeLine text, by decide⟩
  | literal noBreak noQuote clear =>
      rw [clear_cons, clear_append]
      exact ⟨by decide, clear, by decide⟩
  | block =>
      rw [clear_append, clear_append, clear_append]
      exact ⟨⟨⟨by decide, clear_opening text⟩, clear_escapeBlock 0 text⟩, by decide⟩
  | literalBlock apart clear =>
      rw [clear_append, clear_append, clear_append]
      exact ⟨⟨⟨by decide, clear_opening text⟩, clear⟩, by decide⟩

/-! ### Reading them back -/

/-- The line break behind the opening quotes is skipped, and no other is. -/
theorem skipBreak_opening {text body : List Char} (noBreak : '\n' ∉ text → '\n' ∉ body)
    {quote : Char} (differs : quote ≠ '\n') (rest : List Char) :
    skipBreak (opening text ++ (body ++ quote :: rest)) = body ++ quote :: rest := by
  unfold opening
  split
  · rfl
  · rename_i without
    have absent := noBreak (by simpa using without)
    cases body with
    | nil => simp [skipBreak, differs]
    | cons c body =>
        have first : c ≠ '\n' := fun same => absent (same ▸ List.mem_cons_self)
        simp [skipBreak, first]

/-- Behind one quote that is not the first of three, a string on one line is read. -/
theorem readString_line {text : List Char} (single : ∀ more, text ≠ '"' :: '"' :: more) :
    readString ('"' :: text) = readBasic .outside [] text := by
  unfold readString
  split
  · rename_i more same
    exact absurd (List.cons.inj same).2 (single more)
  · rename_i same
    cases same
  · rename_i same
    rw [(List.cons.inj same).2]
  · rename_i same
    cases same
  · rename_i notLine notLiteral
    exact absurd rfl (notLine text)

theorem readString_literal {text : List Char} (single : ∀ more, text ≠ '\'' :: '\'' :: more) :
    readString ('\'' :: text) = readLiteral [] text := by
  unfold readString
  split
  · rename_i same
    cases same
  · rename_i more same
    exact absurd (List.cons.inj same).2 (single more)
  · rename_i same
    cases same
  · rename_i same
    rw [(List.cons.inj same).2]
  · rename_i notLine notLiteral
    exact absurd rfl (notLiteral text)

/-- However a string is written, it is read back up to the end of its form. -/
theorem readString_of_spelled {text chars : List Char} (spelled : Spelled text chars)
    {rest : List Char} (double : rest.head? ≠ some '"') (single : rest.head? ≠ some '\'') :
    readString (chars ++ rest) = some (text, rest) := by
  cases spelled with
  | line =>
      rw [List.cons_append, List.append_assoc, readString_line]
      · exact readBasic_escapeLine text [] rest
      · -- Two quotes more would begin a string over several lines.
        intro more same
        cases text with
        | nil =>
            have behind : rest = '"' :: more := (List.cons.inj same).2
            exact double (congrArg List.head? behind)
        | cons c text =>
            obtain ⟨chars, shown, -, front⟩ := escapeLine_cons c text
            obtain ⟨a, others, begins, noQuote⟩ := shown.first
            rw [front, begins] at same
            exact noQuote (List.cons.inj same).1
  | literal noBreak noQuote clear =>
      rw [List.cons_append, List.append_assoc, readString_literal]
      · exact readLiteral_of_plain noBreak noQuote [] rest
      · intro more same
        cases text with
        | nil =>
            have behind : rest = '\'' :: more := (List.cons.inj same).2
            exact single (congrArg List.head? behind)
        | cons c text => exact noQuote (List.mem_cons.mpr (.inl (List.cons.inj same).1.symm))
  | block =>
      simp only [List.append_assoc]
      change readBlock .outside 0 [] (skipBreak (opening text ++
        (escapeBlock 0 text ++ '"' :: '"' :: '"' :: rest))) = _
      rw [skipBreak_opening (fun noBreak => noBreak_escapeBlock noBreak 0) (by decide)]
      exact readBlock_escapeBlock (Nat.zero_le _) text [] double
  | literalBlock apart clear =>
      simp only [List.append_assoc]
      change readLiteralBlock 0 [] (skipBreak (opening text ++
        (text ++ '\'' :: '\'' :: '\'' :: rest))) = _
      rw [skipBreak_opening id (by decide)]
      exact readLiteralBlock_of_apart apart [] single

/-- A written string begins with a quote. -/
theorem Spelled.first {text chars : List Char} (spelled : Spelled text chars) :
    ∃ quote more, chars = quote :: more ∧ (quote = '"' ∨ quote = '\'') := by
  cases spelled with
  | line => exact ⟨_, _, rfl, .inl rfl⟩
  | literal noBreak noQuote clear => exact ⟨_, _, rfl, .inr rfl⟩
  | block => exact ⟨_, _, rfl, .inl rfl⟩
  | literalBlock apart clear => exact ⟨_, _, rfl, .inr rfl⟩

end Bytemark.Toml
