/-
Module: Bytemark.Proofs.SpelledLabels
Purpose: Labels name encodings up to ASCII case, separators and blanks at the ends.
Trusted boundary: none
Main exports: Text.flatMap_lowercase_eq_iff, Encoding.Named, Encoding.ofLabel_eq_ok_iff,
  Encoding.ofLabel_eq_error_iff, Label.Spells, Label.named_fold_iff,
  labels_up_to_case_and_separators
-/
import Mathlib.Data.List.Basic
import Bytemark.Config.Setting
import Bytemark.Proofs.CarriedOctets
import Bytemark.Proofs.TrimmedText

namespace Bytemark

/-!
Labels are folded with the full mapping to lower case, which takes some characters beyond
ASCII to ASCII letters.  None of them is taken to a letter that a name has: the Kelvin sign
becomes a k, and the dotted capital I leaves its dot behind.  So a label that folds to a name
was of ASCII characters already.
-/

/-! ### Lower case -/

namespace Text

/-- The images of a run lie beyond ASCII. -/
def CaseRun.Wide (run : CaseRun) : Prop :=
  128 ≤ run.first + run.shift ∧
    (run.last + run.shift < 0xD800 ∨
      0xDFFF < run.first + run.shift ∧ run.last + run.shift < 0x110000)
deriving Decidable

/-- The Kelvin sign. -/
def kelvin : CaseRun := ⟨0x212A, 0x212A, 1, -8383⟩

theorem wide_caseRuns : ∀ run ∈ caseRuns, 128 ≤ run.last → run.Wide ∨ run = kelvin := by
  decide +kernel

theorem CaseRun.Wide.image {run : CaseRun} (wide : run.Wide) {code : Nat}
    (held : run.holds code = true) : 128 ≤ (Char.ofNat (code + run.shift).toNat).toNat := by
  obtain ⟨low, valid⟩ := wide
  have within : run.first ≤ code ∧ code ≤ run.last := by
    simp only [CaseRun.holds, Bool.and_eq_true, decide_eq_true_eq] at held
    exact held.1
  rw [Codec.toNat_ofNat_of_scalar (by omega)]
  omega

theorem lowercase_ascii {c : Char} (ascii : c.toNat < 128) : lowercase c = [c.toLower] := by
  have all : ∀ code < 128, lowercase (Char.ofNat code) = [(Char.ofNat code).toLower] := by
    decide +kernel
  have here := all c.toNat ascii
  rw [Char.ofNat_toNat] at here
  exact here

/-- What is mapped from beyond ASCII does not consist of ASCII characters alone, except
for the k. -/
theorem lowercase_wide {c : Char} (wide : 128 ≤ c.toNat) :
    ∃ d ∈ lowercase c, 128 ≤ d.toNat ∨ d = 'k' := by
  unfold lowercase
  by_cases dotted : c.toNat = 0x130
  · rw [if_pos (beq_iff_eq.mpr dotted)]
    exact ⟨Char.ofNat 0x307, by simp, .inl (by decide)⟩
  · rw [if_neg (by simpa using dotted)]
    cases found : caseRuns.find? fun run => run.holds c.toNat with
    | none => exact ⟨c, List.mem_singleton_self c, .inl wide⟩
    | some run =>
        have held := List.find?_some found
        have within : run.first ≤ c.toNat ∧ c.toNat ≤ run.last := by
          simp only [CaseRun.holds, Bool.and_eq_true, decide_eq_true_eq] at held
          exact held.1
        refine ⟨_, List.mem_singleton_self _, ?_⟩
        rcases wide_caseRuns run (List.mem_of_find?_eq_some found) (by omega) with beyond | rfl
        · exact .inl (beyond.image held)
        · have here : c.toNat = 0x212A := Nat.le_antisymm within.2 within.1
          right
          rw [here]
          decide

theorem ascii_of_toLower {c : Char} (ascii : c.toLower.toNat < 128) : c.toNat < 128 := by
  apply Nat.lt_of_not_le
  intro wide
  rw [toLower_of_not_capital (.inr (Nat.lt_of_lt_of_le (by decide) wide))] at ascii
  exact Nat.not_lt.mpr wide ascii

theorem flatMap_lowercase_of_ascii {text : List Char} (ascii : ∀ c ∈ text, c.toNat < 128) :
    text.flatMap lowercase = text.map Char.toLower := by
  rw [List.map_eq_flatMap]
  exact List.flatMap_congr fun c among => lowercase_ascii (ascii c among)

/-- As far as a name of ASCII characters without a k is concerned, the full mapping and that
of the ASCII letters are the same. -/
theorem flatMap_lowercase_eq_iff {text name : List Char}
    (plain : ∀ d ∈ name, d.toNat < 128 ∧ d ≠ 'k') :
    text.flatMap lowercase = name ↔ text.map Char.toLower = name := by
  have ascii_of_full (same : text.flatMap lowercase = name) : ∀ c ∈ text, c.toNat < 128 := by
    intro c among
    apply Nat.lt_of_not_le
    intro wide
    obtain ⟨d, image, odd⟩ := lowercase_wide wide
    obtain ⟨ascii, other⟩ := plain d (same ▸ List.mem_flatMap.mpr ⟨c, among, image⟩)
    rcases odd with beyond | rfl
    · exact Nat.not_lt.mpr beyond ascii
    · exact other rfl
  have ascii_of_map (same : text.map Char.toLower = name) : ∀ c ∈ text, c.toNat < 128 := by
    intro c among
    obtain ⟨ascii, -⟩ := plain c.toLower (same ▸ List.mem_map_of_mem among)
    exact ascii_of_toLower ascii
  constructor
  · intro same
    rw [← flatMap_lowercase_of_ascii (ascii_of_full same)]
    exact same
  · intro same
    rw [flatMap_lowercase_of_ascii (ascii_of_map same)]
    exact same

end Text

/-! ### Names -/

namespace Encoding

/-- The names of the encodings, in small letters and without separators. -/
inductive Named : Encoding → String → Prop where
  | utf8 : Named .utf8 "utf8"
  | utf16be : Named (.utf16 .big) "utf16be"
  | utf16le : Named (.utf16 .little) "utf16le"
  | utf32be : Named (.utf32 .big) "utf32be"
  | utf32le : Named (.utf32 .little) "utf32le"
  | iso88591 : Named .latin1 "iso88591"
  | latin1 : Named .latin1 "latin1"
  | l1 : Named .latin1 "l1"

theorem named_iff {encoding : Encoding} {name : String} :
    encoding.Named name ↔ name ∈ encoding.names := by
  constructor
  · intro named
    cases named <;> decide
  · intro among
    rcases encoding with _ | ⟨_ | _⟩ | ⟨_ | _⟩ | _
    all_goals simp only [names, List.mem_cons, List.not_mem_nil, or_false] at among
    · exact among ▸ .utf8
    · exact among ▸ .utf16be
    · exact among ▸ .utf16le
    · exact among ▸ .utf32be
    · exact among ▸ .utf32le
    · rcases among with rfl | rfl | rfl
      · exact .iso88591
      · exact .latin1
      · exact .l1

/-- Names are of ASCII characters, and none has a k in it. -/
theorem Named.plain {encoding : Encoding} {name : String} (named : encoding.Named name) :
    ∀ d ∈ name.toList, d.toNat < 128 ∧ d ≠ 'k' := by
  have plain : name.toList.all (fun d => decide (d.toNat < 128 ∧ d ≠ 'k')) = true := by
    cases named <;> decide
  exact fun d among => of_decide_eq_true (List.all_eq_true.mp plain d among)

/-- No name belongs to two encodings. -/
theorem Named.find {encoding : Encoding} {name : String} (named : encoding.Named name) :
    all.find? (fun encoding => encoding.names.contains name) = some encoding := by
  cases named <;> decide

theorem ofLabel_eq_ok_iff {label : String} {encoding : Encoding} :
    ofLabel label = .ok encoding ↔
      encoding.Named (String.ofList (Label.fold label.toList)) := by
  unfold ofLabel
  dsimp only
  constructor
  · intro accepted
    split at accepted
    next other found =>
      cases accepted
      have among := List.find?_some found
      exact named_iff.mpr (List.contains_iff_mem.mp among)
    next => cases accepted
  · intro named
    rw [named.find]

/-- A label is refused, as it was given, exactly when it has no name. -/
theorem ofLabel_eq_error_iff {label : String} {refusal : UnknownLabel} :
    ofLabel label = .error refusal ↔
      refusal = ⟨label⟩ ∧
        ∀ encoding : Encoding, ¬encoding.Named (String.ofList (Label.fold label.toList)) := by
  constructor
  · intro refused
    constructor
    · exact congrArg UnknownLabel.mk (label_of_ofLabel_eq_error refused)
    · intro encoding named
      cases refused.symm.trans (ofLabel_eq_ok_iff.mpr named)
  · rintro ⟨rfl, unnamed⟩
    cases outcome : ofLabel label with
    | ok encoding => exact absurd (ofLabel_eq_ok_iff.mp outcome) (unnamed encoding)
    | error refusal =>
        have same := label_of_ofLabel_eq_error outcome
        exact congrArg (fun label => Except.error (UnknownLabel.mk label)) same

end Encoding

/-! ### Labels -/

namespace Label

/-- What counts in a label without the blanks at its ends: dashes, underscores and spaces
are left out, and ASCII letters are small. -/
def plain (core : List Char) : String :=
  String.ofList ((core.filter fun c => c ∉ ['-', '_', ' ']).map Char.toLower)

/-- A label spells the encoding that has what counts in it as a name. -/
def Spells (label : String) (encoding : Encoding) : Prop :=
  ∃ core, Text.Trimmed label.toList core ∧ encoding.Named (plain core)

theorem named_lowercase_iff {encoding : Encoding} {text : List Char} :
    encoding.Named (String.ofList (text.flatMap Text.lowercase)) ↔
      encoding.Named (String.ofList (text.map Char.toLower)) := by
  constructor
  · intro named
    have ascii := named.plain
    rw [String.toList_ofList] at ascii
    rw [(Text.flatMap_lowercase_eq_iff ascii).mp rfl]
    exact named
  · intro named
    have ascii := named.plain
    rw [String.toList_ofList] at ascii
    rw [(Text.flatMap_lowercase_eq_iff ascii).mpr rfl]
    exact named

theorem named_fold_iff {label : String} {encoding : Encoding} :
    encoding.Named (String.ofList (fold label.toList)) ↔ Spells label encoding := by
  have counted : (Text.trim label.toList).filter (fun c => !isSeparator c) =
      (Text.trim label.toList).filter fun c => c ∉ ['-', '_', ' '] := by
    apply List.filter_congr
    intro c _
    apply Bool.eq_iff_iff.mpr
    simp [isSeparator, and_assoc]
  unfold fold Spells plain
  rw [counted, named_lowercase_iff]
  simp only [Text.trimmed_iff, exists_eq_left]

/-- All characters between the blanks at the ends of a spelled label are ASCII. -/
theorem ascii_of_named {encoding : Encoding} {core : List Char}
    (named : encoding.Named (plain core)) : ∀ c ∈ core, c.toNat < 128 := by
  intro c among
  by_cases separates : c ∈ ['-', '_', ' ']
  · have separator : c = '-' ∨ c = '_' ∨ c = ' ' := by simpa using separates
    rcases separator with rfl | rfl | rfl <;> decide
  · have counted : c ∈ core.filter fun c => c ∉ ['-', '_', ' '] :=
      List.mem_filter.mpr ⟨among, decide_eq_true separates⟩
    have ascii := named.plain c.toLower
    unfold plain at ascii
    rw [String.toList_ofList] at ascii
    exact Text.ascii_of_toLower (ascii (List.mem_map_of_mem counted)).1

end Label

/-! ### Reading labels -/

section

variable {ε δ α : Type} {result : Except ε α} {change : ε → δ}

theorem mapError_eq_ok_iff {a : α} : result.mapError change = .ok a ↔ result = .ok a := by
  cases result with
  | ok other => simp [Except.mapError]
  | error cause => simp [Except.mapError]

theorem mapError_eq_error_iff {failure : δ} :
    result.mapError change = .error failure ↔
      ∃ cause, result = .error cause ∧ failure = change cause := by
  cases result with
  | ok other => simp [Except.mapError]
  | error cause => simp [Except.mapError, eq_comm]

end

/-- A label is taken for an encoding exactly when it spells the encoding, so that no character
beyond ASCII stands between the blanks at its ends, and it is refused as it was given exactly
when it spells none.  It is the same when the label is a setting of a document. -/
theorem labels_up_to_case_and_separators (label : String) (encoding : Encoding) :
    (Encoding.ofLabel label = .ok encoding ↔ Label.Spells label encoding) ∧
      (∀ refusal, Encoding.ofLabel label = .error refusal ↔
        refusal = ⟨label⟩ ∧ ∀ other, ¬Label.Spells label other) ∧
      (Encoding.ofLabel label = .ok encoding →
        ∀ core, Text.Trimmed label.toList core → ∀ c ∈ core, c.toNat < 128) ∧
      ((Setting.text label).readEncoding = .ok encoding ↔ Label.Spells label encoding) ∧
      ∀ reason, (Setting.text label).readEncoding = .error reason ↔
        reason = .unknownEncoding ⟨label⟩ ∧ ∀ other, ¬Label.Spells label other := by
  have accepted (encoding : Encoding) :
      Encoding.ofLabel label = .ok encoding ↔ Label.Spells label encoding :=
    Encoding.ofLabel_eq_ok_iff.trans Label.named_fold_iff
  have refused (refusal : UnknownLabel) : Encoding.ofLabel label = .error refusal ↔
      refusal = ⟨label⟩ ∧ ∀ other, ¬Label.Spells label other := by
    simp only [← Label.named_fold_iff]
    exact Encoding.ofLabel_eq_error_iff
  have setting : (Setting.text label).readEncoding =
      (Encoding.ofLabel label).mapError .unknownEncoding := by
    simp only [Setting.readEncoding, Setting.readText, bind, Except.bind]
  refine ⟨accepted encoding, refused, ?_, ?_, ?_⟩
  · intro taken core trimmed
    obtain ⟨same, trimmedSame, named⟩ := (accepted encoding).mp taken
    cases trimmed.eq_trim.trans trimmedSame.eq_trim.symm
    exact Label.ascii_of_named named
  · rw [setting, mapError_eq_ok_iff]
    exact accepted encoding
  · intro reason
    rw [setting, mapError_eq_error_iff]
    constructor
    · rintro ⟨refusal, outcome, rfl⟩
      obtain ⟨rfl, unspelled⟩ := (refused refusal).mp outcome
      exact ⟨rfl, unspelled⟩
    · rintro ⟨rfl, unspelled⟩
      have outcome : Encoding.ofLabel label = .error ⟨label⟩ :=
        (refused ⟨label⟩).mpr ⟨rfl, unspelled⟩
      exact ⟨⟨label⟩, outcome, rfl⟩

/-- Blanks at the ends may be of any kind, but a space inside is the only one that is left out. -/
example : Encoding.ofLabel "\u00a0ISO_8859 1\u3000" = .ok .latin1 := by decide +kernel

example : Encoding.ofLabel "latİn1" = .error ⟨"latİn1"⟩ := by decide +kernel

end Bytemark
