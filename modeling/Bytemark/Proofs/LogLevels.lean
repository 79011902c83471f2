/-
Module: Bytemark.Proofs.LogLevels
Purpose: The levels that a configuration may have, and what they ask for.
Trusted boundary: none
Main exports: Text.digitsValue_eq_some_iff, Text.natural_eq_some_iff, LogFilter.Asks,
  LogFilter.Meant, LogFilter.ofLevel_eq_some_iff, Config.HeldBy, Config.HeldBy.ofToml,
  levels_by_name_place_or_nothing, unnamed_levels_pass
-/
import Mathlib.Data.List.Basic
import Mathlib.Data.List.TakeWhile
import Bytemark.Proofs.TrimmedText
import Bytemark.Proofs.WrittenConfig

namespace Bytemark

/-!
A level is first tried as a number and then as a name.  No name has a digit in it and every
number has one, so the two never compete, and what a level asks for can be said without the
order in which it is tried.
-/

namespace Text

/-! ### Numbers below ten -/

/-- The value of digits that stand behind others. -/
def continued (value : Nat) (digits : List Char) : Nat :=
  digits.foldl (fun value c => value * 10 + (c.toNat - 0x30)) value

theorem le_continued (value : Nat) (digits : List Char) : value ≤ continued value digits := by
  induction digits generalizing value with
  | nil => exact Nat.le_refl value
  | cons c rest inductionHypothesis =>
      calc
        value ≤ value * 10 + (c.toNat - 0x30) := by omega
        _ ≤ continued (value * 10 + (c.toNat - 0x30)) rest := inductionHypothesis _

/-- The digits that count. -/
def counted (digits : List Char) : List Char := digits.dropWhile (· == '0')

theorem eq_zeros_counted (digits : List Char) :
    ∃ zeros, digits = List.replicate zeros '0' ++ counted digits := by
  have zeros : ∀ c ∈ digits.takeWhile (· == '0'), c = '0' := by
    intro c among
    have zero := List.mem_takeWhile_imp among
    exact beq_iff_eq.mp zero
  refine ⟨(digits.takeWhile (· == '0')).length, ?_⟩
  rw [← List.eq_replicate_of_mem zeros]
  exact List.takeWhile_append_dropWhile.symm

theorem digitsValue_eq_some {digits : List Char} {number : Nat} :
    digitsValue digits = some number ↔
      (digits ≠ [] ∧ (∀ c ∈ digits, c.isDigit = true)) ∧
        (counted digits).length ≤ longestNumber ∧ continued 0 (counted digits) = number := by
  change (if digits.isEmpty || !digits.all Char.isDigit ||
    decide (longestNumber < (counted digits).length) then none
    else some (continued 0 (counted digits))) = some number ↔ _
  rw [Option.ite_none_left_eq_some, Option.some.injEq, ← and_assoc]
  exact and_congr_left' (by simp)

theorem eq_digitChar {c : Char} (digit : c.isDigit = true) : c = Nat.digitChar (c.toNat - 48) := by
  obtain ⟨low, high⟩ : 48 ≤ c.toNat ∧ c.toNat ≤ 57 := Char.isDigit_iff_toNat.mp digit
  apply Char.toNat_inj.mp
  rw [Nat.toNat_digitChar_of_lt_ten (by omega)]
  omega

theorem first_counted {digits rest : List Char} {c : Char} (first : counted digits = c :: rest) :
    c ≠ '0' := by
  have stopped := List.head?_dropWhile_not (· == '0') digits
  rw [show digits.dropWhile (· == '0') = c :: rest from first] at stopped
  exact ne_of_beq_false stopped

/-- Two digits that count make at least ten, so a number below ten has at most one. -/
theorem counted_of_small {digits : List Char} {number : Nat} (small : number < 10)
    (digit : ∀ c ∈ counted digits, c.isDigit = true)
    (value : continued 0 (counted digits) = number) :
    counted digits = [] ∧ number = 0 ∨ counted digits = [Nat.digitChar number] := by
  cases left : counted digits with
  | nil =>
      rw [left] at value
      exact .inl ⟨rfl, value.symm⟩
  | cons c rest =>
      right
      rw [left] at value digit
      have written := eq_digitChar (digit c List.mem_cons_self)
      cases rest with
      | nil =>
          have here : c.toNat - 48 = number := (Nat.zero_add _).symm.trans value
          rw [here] at written
          rw [written]
      | cons d rest =>
          have high : (0 * 10 + (c.toNat - 0x30)) * 10 + (d.toNat - 0x30) ≤ number :=
            value ▸ le_continued _ rest
          have zero : c.toNat - 48 = 0 := by omega
          rw [zero] at written
          exact absurd written (first_counted left)

theorem digitsValue_zeros {number : Nat} (small : number < 10) (zeros : Nat) :
    digitsValue (List.replicate zeros '0' ++ [Nat.digitChar number]) = some number := by
  have zero : ∀ c ∈ List.replicate zeros '0', (c == '0') = true :=
    fun c among => beq_iff_eq.mpr (List.eq_of_mem_replicate among)
  have left : counted (List.replicate zeros '0' ++ [Nat.digitChar number]) =
      counted [Nat.digitChar number] := List.dropWhile_append_of_pos zero
  have last : ∀ number < 10, (counted [Nat.digitChar number]).length ≤ longestNumber ∧
      continued 0 (counted [Nat.digitChar number]) = number := by decide
  rw [digitsValue_eq_some, left]
  refine ⟨⟨by simp, fun c among => ?_⟩, last number small⟩
  rcases List.mem_append.mp among with front | back
  · rw [List.eq_of_mem_replicate front]
    rfl
  · rw [List.mem_singleton.mp back, Nat.isDigit_digitChar]
    exact decide_eq_true small

/-- A number below ten is written as its digit, behind any number of zeros. -/
theorem digitsValue_eq_some_iff {digits : List Char} {number : Nat} (small : number < 10) :
    digitsValue digits = some number ↔
      ∃ zeros, digits = List.replicate zeros '0' ++ [Nat.digitChar number] := by
  constructor
  · intro valued
    obtain ⟨⟨some, all⟩, -, value⟩ := digitsValue_eq_some.mp valued
    obtain ⟨zeros, same⟩ := eq_zeros_counted digits
    have digit : ∀ c ∈ counted digits, c.isDigit = true :=
      fun c among => all c (same ▸ List.mem_append_right _ among)
    rcases counted_of_small small digit value with ⟨none, rfl⟩ | last
    · rw [none, List.append_nil] at same
      cases zeros with
      | zero => exact absurd same some
      | succ zeros => exact ⟨zeros, same.trans List.replicate_succ'⟩
    · rw [last] at same
      exact ⟨zeros, same⟩
  · rintro ⟨zeros, rfl⟩
    exact digitsValue_zeros small zeros

/-- A number below ten as a level can have it, with or without a plus sign. -/
def Numbers (text : List Char) (number : Nat) : Prop :=
  ∃ sign zeros, (sign = [] ∨ sign = ['+']) ∧
    text = sign ++ (List.replicate zeros '0' ++ [Nat.digitChar number])

theorem natural_of_unsigned {text : List Char} (unsigned : text.head? ≠ some '+') :
    natural text = digitsValue text := by
  unfold natural
  split
  · exact absurd rfl unsigned
  · rfl

theorem unsigned_of_digitsValue {text : List Char} {number : Nat}
    (valued : digitsValue text = some number) : text.head? ≠ some '+' := by
  intro signed
  have digit := (digitsValue_eq_some.mp valued).1.2 '+' (List.mem_of_mem_head? signed)
  exact absurd digit (by decide)

theorem natural_eq_some_iff {text : List Char} {number : Nat} (small : number < 10) :
    natural text = some number ↔ Numbers text number := by
  constructor
  · intro valued
    by_cases signed : text.head? = some '+'
    · obtain ⟨digits, rfl⟩ := List.head?_eq_some_iff.mp signed
      obtain ⟨zeros, same⟩ := (digitsValue_eq_some_iff small).mp valued
      exact ⟨['+'], zeros, .inr rfl, congrArg ('+' :: ·) same⟩
    · rw [natural_of_unsigned signed] at valued
      obtain ⟨zeros, same⟩ := (digitsValue_eq_some_iff small).mp valued
      exact ⟨[], zeros, .inl rfl, same⟩
  · rintro ⟨sign, zeros, plain | plus, rfl⟩
    · have valued := (digitsValue_eq_some_iff small).mpr ⟨zeros, rfl⟩
      rw [plain, List.nil_append, natural_of_unsigned (unsigned_of_digitsValue valued)]
      exact valued
    · rw [plus]
      exact (digitsValue_eq_some_iff small).mpr ⟨zeros, rfl⟩

theorem exists_digit_of_natural {text : List Char} {number : Nat}
    (valued : natural text = some number) : ∃ c ∈ text, c.isDigit = true := by
  have digit {digits : List Char} (valued : digitsValue digits = some number) :
      ∃ c ∈ digits, c.isDigit = true := by
    obtain ⟨⟨some, all⟩, -⟩ := digitsValue_eq_some.mp valued
    obtain ⟨c, among⟩ := List.exists_mem_of_ne_nil digits some
    exact ⟨c, among, all c among⟩
  unfold natural at valued
  split at valued
  · obtain ⟨c, among, isDigit⟩ := digit valued
    exact ⟨c, List.mem_cons_of_mem _ among, isDigit⟩
  · exact digit valued

theorem toLower_of_isDigit {c : Char} (digit : c.isDigit = true) : c.toLower = c := by
  apply toLower_of_not_capital
  left
  exact Nat.lt_of_le_of_lt (Char.isDigit_iff_toNat.mp digit).2 (by decide)

end Text

/-! ### Levels -/

namespace LogFilter

/-- How a level without blanks around it can ask for a filter. -/
inductive Asks : LogFilter → List Char → Prop where
  /-- By the name of the filter, in any mixture of upper and lower case. -/
  | named {filter : LogFilter} {core : List Char}
      (same : core.map Char.toLower = filter.name.toList) : Asks filter core
  /-- By the place of the filter among all. -/
  | placed {filter : LogFilter} {core : List Char} {place : Nat}
      (here : all[place]? = some filter) (numbers : Text.Numbers core place) : Asks filter core
  /-- Who asks for nothing is given errors. -/
  | nothing : Asks .error []

/-- The level, with blanks around it or not, has the name of the filter. -/
def Named (filter : LogFilter) (level : String) : Prop :=
  ∃ core, Text.Trimmed level.toList core ∧ core.map Char.toLower = filter.name.toList

/-- The level, with blanks around it or not, asks for the filter. -/
def Meant (filter : LogFilter) (level : String) : Prop :=
  ∃ core, Text.Trimmed level.toList core ∧ Asks filter core

theorem natural_of_named {filter : LogFilter} {core : List Char}
    (same : core.map Char.toLower = filter.name.toList) : Text.natural core = none := by
  have letters : filter.name.toList.all (fun d => !d.isDigit) = true := by
    cases filter <;> decide
  cases valued : Text.natural core with
  | none => rfl
  | some number =>
      obtain ⟨c, among, digit⟩ := Text.exists_digit_of_natural valued
      have letter := List.all_eq_true.mp letters c.toLower (same ▸ List.mem_map_of_mem among)
      rw [Text.toLower_of_isDigit digit, digit] at letter
      cases letter

theorem find_name (filter : LogFilter) :
    all.find? (fun other => filter.name.toList == other.name.toList) = some filter := by
  cases filter <;> decide

theorem ofTrimmed_eq_some_iff {core : List Char} {filter : LogFilter} :
    ofTrimmed core = some filter ↔ Asks filter core := by
  constructor
  · intro taken
    unfold ofTrimmed at taken
    split at taken
    next other found =>
      cases taken
      obtain ⟨place, valued, here⟩ := Option.bind_eq_some_iff.mp found
      have small : place < 10 :=
        Nat.lt_trans (List.getElem?_eq_some_iff.mp here).1 (by decide)
      exact .placed here ((Text.natural_eq_some_iff small).mp valued)
    next =>
      split at taken
      next empty =>
        cases taken
        cases List.isEmpty_iff.mp empty
        exact .nothing
      next =>
        have same := List.find?_some taken
        exact .named (beq_iff_eq.mp same)
  · intro asks
    unfold ofTrimmed
    cases asks with
    | named same =>
        have some : core.isEmpty = false := by
          cases core with
          | nil => cases filter <;> cases same
          | cons c rest => rfl
        rw [natural_of_named same, some, same]
        exact filter.find_name
    | placed here numbers =>
        have small := Nat.lt_trans (List.getElem?_eq_some_iff.mp here).1
          (by decide : all.length < 10)
        rw [(Text.natural_eq_some_iff small).mpr numbers, Option.bind_some, here]
    | nothing => rfl

theorem ofLevel_eq_some_iff {level : String} {filter : LogFilter} :
    ofLevel level = some filter ↔ filter.Meant level := by
  unfold ofLevel Meant
  simp only [Text.trimmed_iff, exists_eq_left]
  exact ofTrimmed_eq_some_iff

end LogFilter

/-! ### Configurations -/

/-- The refusal of a level quotes it. -/
theorem ConfigError.quoted_unknownLevel (level : String) :
    ∃ before behind,
      (unknownLevel level).message = before ++ ("'" ++ level ++ "'") ++ behind := by
  have opening : "Configuration validation error: Unknown log level '" =
      "Configuration validation error: Unknown log level " ++ "'" := by decide
  have closing : "' " = "'" ++ " " := by decide
  refine ⟨"Configuration validation error: Unknown log level ",
    " " ++ "(expected off, error, warn, info, debug or trace)", ?_⟩
  change "Configuration validation error: Unknown log level '" ++ level ++ "' " ++
    "(expected off, error, warn, info, debug or trace)" = _
  rw [opening, closing]
  simp only [String.append_assoc]

namespace Config

/-- The text is a document whose values are those of the configuration, valid or not. -/
def HeldBy (config : Config) (text : String) : Prop :=
  ∃ members, Toml.read text = some members ∧
    (Setting.record (Toml.Members.toSettings members)).readRecord .toml ["text", "log"] put {} =
      .ok config

theorem heldBy_toToml (config : Config) : config.HeldBy config.toToml :=
  ⟨config.members, config.read_toToml, config.readRecord_members⟩

theorem HeldBy.ofToml {config : Config} {text : String} (held : config.HeldBy text) :
    ofToml text = config.validate.map fun _ => config := by
  obtain ⟨members, isRead, taken⟩ := held
  unfold Config.ofToml
  rw [isRead]
  dsimp only
  rw [taken]
  rfl

theorem logFilter_eq_ok_iff {config : Config} {filter : LogFilter} :
    config.logFilter = .ok filter ↔ filter.Meant config.logLevel := by
  rw [← LogFilter.ofLevel_eq_some_iff]
  unfold logFilter
  cases LogFilter.ofLevel config.logLevel with
  | none => simp
  | some other => simp

theorem logFilter_eq_error {config : Config}
    (unmeant : ∀ filter : LogFilter, ¬filter.Meant config.logLevel) :
    config.logFilter = .error (.unknownLevel config.logLevel) := by
  unfold logFilter
  cases found : LogFilter.ofLevel config.logLevel with
  | none => rfl
  | some filter => exact absurd (LogFilter.ofLevel_eq_some_iff.mp found) (unmeant filter)

end Config

/-- A level gives the filter that has its name, up to blanks around it and the case of its
letters, or the filter at the place that it numbers, and an empty one gives the errors.  Then
the configuration is valid, and a document with its values is read.  Any other level is
refused, by itself, in a configuration and in a document, with an error that quotes it. -/
theorem levels_by_name_place_or_nothing (config : Config) :
    (∀ filter, config.logFilter = .ok filter ↔ filter.Meant config.logLevel) ∧
      ((∃ filter : LogFilter, filter.Meant config.logLevel) →
        config.validate = .ok () ∧
          ∀ text, config.HeldBy text → Config.ofToml text = .ok config) ∧
      ((∀ filter : LogFilter, ¬filter.Meant config.logLevel) →
        config.logFilter = .error (.unknownLevel config.logLevel) ∧
          config.validate = .error (.unknownLevel config.logLevel) ∧
          ∀ text, config.HeldBy text →
            Config.ofToml text = .error (.unknownLevel config.logLevel)) ∧
      config.HeldBy config.toToml ∧
      ∃ before behind, (ConfigError.unknownLevel config.logLevel).message =
        before ++ ("'" ++ config.logLevel ++ "'") ++ behind := by
  refine ⟨fun _ => Config.logFilter_eq_ok_iff, ?_, ?_, config.heldBy_toToml, ?_⟩
  · rintro ⟨filter, meant⟩
    have valid : config.validate = .ok () := by
      unfold Config.validate
      rw [Config.logFilter_eq_ok_iff.mpr meant]
      rfl
    refine ⟨valid, fun text held => ?_⟩
    rw [held.ofToml, valid]
    rfl
  · intro unmeant
    have refused := Config.logFilter_eq_error unmeant
    have invalid : config.validate = .error (.unknownLevel config.logLevel) := by
      unfold Config.validate
      rw [refused]
      rfl
    refine ⟨refused, invalid, fun text held => ?_⟩
    rw [held.ofToml, invalid]
    rfl
  · exact ConfigError.quoted_unknownLevel config.logLevel

/-- Levels that have none of the six names are not refused: a number, a signed number with
zeros, and nothing at all, in a document as well. -/
theorem unnamed_levels_pass :
    (∀ level ∈ ["3", "+05", ""], ∀ filter : LogFilter, ¬filter.Named level) ∧
      ({ logLevel := "3" } : Config).logFilter = .ok .info ∧
      ({ logLevel := "+05" } : Config).logFilter = .ok .trace ∧
      ({ logLevel := "" } : Config).logFilter = .ok .error ∧
      Config.ofToml "[log]\nlevel = \"\"\n" = .ok { logLevel := "" } := by
  have unnamed : ∀ level ∈ ["3", "+05", ""], ∀ filter ∈ LogFilter.all,
      (Text.trim level.toList).map Char.toLower ≠ filter.name.toList := by decide
  refine ⟨?_, by decide, by decide, by decide, by decide +kernel⟩
  rintro level among filter ⟨core, trimmed, same⟩
  have listed : filter ∈ LogFilter.all := by cases filter <;> decide
  rw [trimmed.eq_trim] at same
  exact unnamed level among filter listed same

end Bytemark
