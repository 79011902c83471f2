/-
Module: Bytemark.Proofs.WrittenConfig
Purpose: A configuration is read back from the text that it is written as.
Trusted boundary: none
Main exports: Toml.readLine_header, Toml.readLine_pair, Toml.readValue_of_spelled,
  Config.members, Config.read_toToml, Config.ofToml_toToml, config_survives_writing
-/
import Mathlib.Data.List.TakeDrop
import Bytemark.Config
import Bytemark.Proofs.WrittenStrings

namespace Bytemark

open Toml

/-!
A configuration is written as lines of three kinds: headers, pairs and an empty one.
Each kind is read back as what it says, whatever stands behind it, and so the document
is read line by line into the members that were written.
-/

namespace Toml

/-! ### Lines -/

/-- A header in front of a text. -/
def header (name : String) (rest : List Char) : List Char :=
  '[' :: (name.toList ++ ']' :: '\n' :: rest)

/-- A key and a value in front of a text. -/
def pair (name : String) (value rest : List Char) : List Char :=
  name.toList ++ ' ' :: '=' :: ' ' :: (value ++ '\n' :: rest)

/-- A name that may stand in a document without quotes. -/
structure Bare (name : String) : Prop where
  nonempty : name.toList ≠ []
  chars : ∀ c ∈ name.toList, isBareChar c = true

instance (name : String) : Decidable (Bare name) :=
  decidable_of_iff (name.toList.isEmpty = false ∧ name.toList.all isBareChar = true)
    ⟨fun bare => ⟨by simpa using bare.1, List.all_eq_true.mp bare.2⟩,
      fun bare => ⟨by simpa using bare.nonempty, List.all_eq_true.mpr bare.chars⟩⟩

theorem clear_header {name : String} {rest : List Char} (clear : Clear name.toList) :
    Clear (header name rest) ↔ Clear rest := by
  have marks : isControl '[' = false ∧ isControl ']' = false ∧ isControl '\n' = false := by decide
  simp [header, clear_cons, clear_append, clear, marks]

theorem clear_pair {name : String} {value rest : List Char} (clear : Clear name.toList)
    (clearValue : Clear value) : Clear (pair name value rest) ↔ Clear rest := by
  have marks : isControl ' ' = false ∧ isControl '=' = false ∧ isControl '\n' = false := by decide
  simp [pair, clear_cons, clear_append, clear, clearValue, marks]

/-! ### Keys -/

theorem Bare.first {name : String} (bare : Bare name) :
    ∃ c more, name.toList = c :: more ∧ isBareChar c = true := by
  cases whole : name.toList with
  | nil => exact absurd whole bare.nonempty
  | cons c more =>
      have inside : c ∈ name.toList := by
        rw [whole]
        exact List.mem_cons_self
      exact ⟨c, more, rfl, bare.chars c inside⟩

/-- A character of a name is no blank, quote or bracket, and begins no comment. -/
theorem ne_of_isBareChar {c mark : Char} (bare : isBareChar c = true)
    (other : isBareChar mark = false) : c ≠ mark := by
  rintro rfl
  rw [bare] at other
  cases other

theorem skipBlanks_cons {c : Char} (noBlank : c ≠ ' ') (noTab : c ≠ '\t') (rest : List Char) :
    skipBlanks (c :: rest) = c :: rest := by
  simp [skipBlanks, noBlank, noTab]

theorem skipBlanks_of_bare {name : String} (bare : Bare name) (rest : List Char) :
    skipBlanks (name.toList ++ rest) = name.toList ++ rest := by
  obtain ⟨c, more, front, isBare⟩ := bare.first
  rw [front, List.cons_append]
  exact skipBlanks_cons (ne_of_isBareChar isBare (by decide))
    (ne_of_isBareChar isBare (by decide)) _

theorem span_of_bare {name : String} (bare : Bare name) {c : Char} (ends : isBareChar c = false)
    (rest : List Char) :
    (name.toList ++ c :: rest).span isBareChar = (name.toList, c :: rest) := by
  rw [List.span_eq_takeWhile_dropWhile, List.takeWhile_append_of_pos bare.chars,
    List.dropWhile_append_of_pos bare.chars, List.takeWhile_cons_of_neg (by simp [ends]),
    List.dropWhile_cons_of_neg (by simp [ends]), List.append_nil]

/-- A name without quotes is read up to the first character that is none of a name. -/
theorem readName_of_bare {name : String} (bare : Bare name) {c : Char}
    (ends : isBareChar c = false) (rest : List Char) :
    readName (name.toList ++ c :: rest) = some (name, c :: rest) := by
  have whole := span_of_bare bare ends rest
  obtain ⟨a, more, front, isBare⟩ := bare.first
  unfold readName
  split
  · rename_i same
    rw [front] at same
    exact absurd (List.cons.inj same).1 (ne_of_isBareChar isBare (by decide))
  · rename_i same
    rw [front] at same
    exact absurd (List.cons.inj same).1 (ne_of_isBareChar isBare (by decide))
  · have nonempty : name.toList.isEmpty = false := by simp [front]
    rw [whole]
    simp [nonempty]

/-- A key without dots is its name. -/
theorem readKey_of_bare {name : String} (bare : Bare name) {c : Char}
    (ends : isBareChar c = false) {rest : List Char}
    (behind : ∀ more, skipBlanks (c :: rest) ≠ '.' :: more) {room : Nat} (positive : 0 < room) :
    readKey room (name.toList ++ c :: rest) = some (⟨[], name⟩, skipBlanks (c :: rest)) := by
  cases room with
  | zero => exact absurd positive (Nat.lt_irrefl 0)
  | succ room =>
      rw [readKey, skipBlanks_of_bare bare, readName_of_bare bare ends]
      simp only [Option.bind_eq_bind, Option.bind_some]

theorem endLine_break (rest : List Char) : endLine ('\n' :: rest) = some rest := rfl

theorem readLine_header {name : String} (bare : Bare name) (fuel : Nat) (draft : Draft)
    (rest : List Char) :
    readLine fuel draft (header name rest) =
      (draft.enter (.table ⟨[], name⟩)).map fun entered => (entered, rest) := by
  have key : readKey (deepest - 1) (name.toList ++ ']' :: '\n' :: rest) =
      some (⟨[], name⟩, ']' :: '\n' :: rest) :=
    readKey_of_bare bare (by decide) (by simp [skipBlanks]) (by decide)
  obtain ⟨c, more, front, isBare⟩ := bare.first
  have single : c ≠ '[' := ne_of_isBareChar isBare (by decide)
  rw [front, List.cons_append] at key
  rw [header, front, readLine, skipBlanks_cons (by decide) (by decide)]
  cases entering : draft.enter (.table ⟨[], name⟩) with
  | none => simp [single, key, skip, entering]
  | some entered => simp [single, key, skip, endLine_break, entering]

/-- Blanks in front of a value do not stand in it. -/
theorem readEquals_of_bare {name : String} (bare : Bare name) {value : List Char}
    (unblank : skipBlanks value = value) :
    readEquals (name.toList ++ ' ' :: '=' :: ' ' :: value) = some (⟨[], name⟩, value) := by
  have key : readKey (deepest - 1) (name.toList ++ ' ' :: '=' :: ' ' :: value) =
      some (⟨[], name⟩, '=' :: ' ' :: value) :=
    readKey_of_bare bare (by decide) (by simp [skipBlanks]) (by decide)
  have blanks : skipBlanks (' ' :: value) = value := unblank
  simp [readEquals, key, skip, blanks]

theorem readLine_pair {name : String} (bare : Bare name) {value rest : List Char} {fuel : Nat}
    {read : Value} (unblank : skipBlanks (value ++ '\n' :: rest) = value ++ '\n' :: rest)
    (reads : readValue fuel (deepest - 1) (value ++ '\n' :: rest) = some (read, '\n' :: rest))
    (draft : Draft) :
    readLine fuel draft (pair name value rest) =
      (draft.put ⟨[], name⟩ read).map fun longer => (longer, rest) := by
  have equals := readEquals_of_bare bare unblank
  obtain ⟨c, more, front, isBare⟩ := bare.first
  have noBreak : c ≠ '\n' := ne_of_isBareChar isBare (by decide)
  have noComment : c ≠ '#' := ne_of_isBareChar isBare (by decide)
  have noBracket : c ≠ '[' := ne_of_isBareChar isBare (by decide)
  rw [readLine, pair, skipBlanks_of_bare bare]
  rw [front, List.cons_append] at equals ⊢
  cases putting : draft.put ⟨[], name⟩ read with
  | none => simp [noBreak, noComment, noBracket, equals, reads, endLine_break, putting]
  | some longer => simp [noBreak, noComment, noBracket, equals, reads, endLine_break, putting]

/-! ### Values -/

/-- A written string is read as a value. -/
theorem readValue_of_spelled {text chars : List Char} (spelled : Spelled text chars)
    (rest : List Char) (fuel room : Nat) :
    readValue (fuel + 1) room (chars ++ '\n' :: rest) =
      some (.string (String.ofList text), '\n' :: rest) := by
  have read : readString (chars ++ '\n' :: rest) = some (text, '\n' :: rest) :=
    readString_of_spelled spelled (by simp) (by simp)
  obtain ⟨quote, more, rfl, quotes⟩ := spelled.first
  rw [List.cons_append] at read ⊢
  rcases quotes with rfl | rfl
  · simp [readValue, read]
  · simp [readValue, read]

theorem skipBlanks_of_spelled {text chars : List Char} (spelled : Spelled text chars)
    (rest : List Char) : skipBlanks (chars ++ rest) = chars ++ rest := by
  obtain ⟨quote, more, rfl, quotes⟩ := spelled.first
  rcases quotes with rfl | rfl
  · exact skipBlanks_cons (by decide) (by decide) _
  · exact skipBlanks_cons (by decide) (by decide) _

/-- A flag as it is written. -/
def flag (value : Bool) : List Char :=
  (if value then "true" else "false").toList

theorem readValue_flag (value : Bool) (rest : List Char) (fuel room : Nat) :
    readValue (fuel + 1) room (flag value ++ '\n' :: rest) =
      some (.boolean value, '\n' :: rest) := by
  cases value <;> rfl

/-! ### Documents -/

/-- One line is read, and then the others. -/
theorem readLines_of_line {valueFuel : Nat} {draft next : Draft} {text rest : List Char}
    (nonempty : text ≠ []) (line : readLine valueFuel draft text = some (next, rest))
    (fuel : Nat) :
    readLines valueFuel (fuel + 1) draft text = readLines valueFuel fuel next rest := by
  cases text with
  | nil => exact absurd rfl nonempty
  | cons c text => simp [readLines, line]

theorem readLines_header {name : String} (bare : Bare name) {draft entered : Draft}
    (enters : draft.enter (.table ⟨[], name⟩) = some entered) (rest : List Char)
    (valueFuel fuel : Nat) :
    readLines valueFuel (fuel + 1) draft (header name rest) =
      readLines valueFuel fuel entered rest := by
  have nonempty : header name rest ≠ [] := List.cons_ne_nil _ _
  refine readLines_of_line nonempty ?_ fuel
  rw [readLine_header bare, enters]
  rfl

theorem readLines_pair {name : String} (bare : Bare name) {value rest : List Char}
    {valueFuel : Nat} {read : Value}
    (unblank : skipBlanks (value ++ '\n' :: rest) = value ++ '\n' :: rest)
    (reads : readValue valueFuel (deepest - 1) (value ++ '\n' :: rest) =
      some (read, '\n' :: rest))
    {draft longer : Draft} (puts : draft.put ⟨[], name⟩ read = some longer) (fuel : Nat) :
    readLines valueFuel (fuel + 1) draft (pair name value rest) =
      readLines valueFuel fuel longer rest := by
  have nonempty : pair name value rest ≠ [] := by simp [pair]
  refine readLines_of_line nonempty ?_ fuel
  rw [readLine_pair bare unblank reads, puts]
  rfl

theorem readLines_string {name : String} (bare : Bare name) {text : String}
    {draft longer : Draft} (puts : draft.put ⟨[], name⟩ (.string text) = some longer)
    (rest : List Char) (valueFuel fuel : Nat) :
    readLines (valueFuel + 1) (fuel + 1) draft (pair name (written text.toList) rest) =
      readLines (valueFuel + 1) fuel longer rest := by
  have spelled := spelled_written text.toList
  have reads := readValue_of_spelled spelled rest valueFuel (deepest - 1)
  rw [String.ofList_toList] at reads
  exact readLines_pair bare (skipBlanks_of_spelled spelled _) reads puts fuel

theorem readLines_flag {name : String} (bare : Bare name) {value : Bool}
    {draft longer : Draft} (puts : draft.put ⟨[], name⟩ (.boolean value) = some longer)
    (rest : List Char) (valueFuel fuel : Nat) :
    readLines (valueFuel + 1) (fuel + 1) draft (pair name (flag value) rest) =
      readLines (valueFuel + 1) fuel longer rest := by
  have unblank : skipBlanks (flag value ++ '\n' :: rest) = flag value ++ '\n' :: rest := by
    cases value <;> rfl
  exact readLines_pair bare unblank (readValue_flag value rest valueFuel _) puts fuel

end Toml

namespace Config

/-- The names of all members. -/
theorem bare_names : Bare "text" ∧ Bare "default_encoding" ∧ Bare "keep_existing_bom" ∧
    Bare "probe_policy" ∧ Bare "log" ∧ Bare "level" := by
  decide

/-- The members that a configuration is written as. -/
def members (config : Config) : Members :=
  [("text", .table .header
      [("default_encoding", .string config.text.defaultEncoding.label),
        ("keep_existing_bom", .boolean config.text.keepExistingSignature),
        ("probe_policy", .string config.text.probePolicy.label)]),
    ("log", .table .header [("level", .string config.logLevel)])]

/-- The lines that a configuration is written as. -/
theorem toList_toToml (config : Config) :
    config.toToml.toList =
      header "text" (
        pair "default_encoding" (written config.text.defaultEncoding.label.toList) (
          pair "keep_existing_bom" (flag config.text.keepExistingSignature) (
            pair "probe_policy" (written config.text.probePolicy.label.toList) (
              '\n' :: header "log" (
                pair "level" (written config.logLevel.toList) []))))) := by
  simp [toToml, pairLine, quoted, header, pair, flag]

theorem clear_toToml (config : Config) : Clear config.toToml.toList := by
  have written (text : String) : Clear (written text.toList) := (spelled_written text.toList).clear
  have flags : Clear (flag config.text.keepExistingSignature) := by
    cases config.text.keepExistingSignature <;> decide
  rw [toList_toToml, clear_header (by decide), clear_pair (by decide) (written _),
    clear_pair (by decide) flags, clear_pair (by decide) (written _), clear_cons,
    clear_header (by decide), clear_pair (by decide) (written _)]
  decide

/-- Seven lines are read one after the other, and behind them nothing is left. -/
theorem readLines_toToml (config : Config) (valueFuel fuel : Nat) :
    readLines (valueFuel + 1) (fuel + 8) {} config.toToml.toList =
      some { root := [("text", .table .header
               [("default_encoding", .string config.text.defaultEncoding.label),
                 ("keep_existing_bom", .boolean config.text.keepExistingSignature),
                 ("probe_policy", .string config.text.probePolicy.label)])]
             place := .table ⟨[], "log"⟩
             current := [("level", .string config.logLevel)] } := by
  obtain ⟨bareText, bareEncoding, bareFlag, barePolicy, bareLog, bareLevel⟩ := bare_names
  have blank (draft : Draft) (rest : List Char) :
      readLine (valueFuel + 1) draft ('\n' :: rest) = some (draft, rest) := rfl
  rw [toList_toToml, readLines_header bareText rfl, readLines_string bareEncoding rfl,
    readLines_flag bareFlag rfl, readLines_string barePolicy rfl,
    readLines_of_line (List.cons_ne_nil _ _) (blank _ _), readLines_header bareLog rfl,
    readLines_string bareLevel rfl]
  rfl

/-- The written text is a document with the members of the configuration. -/
theorem read_toToml (config : Config) : Toml.read config.toToml = some config.members := by
  have marked : dropMark config.toToml.toList = config.toToml.toList := by
    rw [toList_toToml]
    rfl
  have long : 7 ≤ config.toToml.toList.length := by
    rw [toList_toToml]
    simp [header]
  obtain ⟨fuel, enough⟩ : ∃ fuel, config.toToml.toList.length + 1 = fuel + 8 :=
    ⟨config.toToml.toList.length - 7, by omega⟩
  have lines := readLines_toToml config (2 * config.toToml.toList.length + 1) fuel
  unfold Toml.read
  simp only [marked, clean_of_clear (clear_toToml config), Option.bind_eq_bind, Option.bind_some,
    enough, lines]
  rfl

/-! ### Settings -/

theorem ofLabel_label (encoding : Encoding) : Encoding.ofLabel encoding.label = .ok encoding := by
  cases encoding with
  | utf8 => rfl
  | utf16 order => cases order <;> rfl
  | utf32 order => cases order <;> rfl
  | latin1 => rfl

theorem policy_ofLabel_label (policy : ProbePolicy) :
    ProbePolicy.ofLabel policy.label = .ok policy := by
  cases policy <;> rfl

/-- The settings of texts are read from their labels and the flag. -/
theorem ofSetting_text (settings : TextSettings) :
    TextSettings.ofSetting .toml (.record
        [("default_encoding", .text settings.defaultEncoding.label),
          ("keep_existing_bom", .flag settings.keepExistingSignature),
          ("probe_policy", .text settings.probePolicy.label)]) = .ok settings := by
  have encoding : (Setting.text settings.defaultEncoding.label).readEncoding =
      .ok settings.defaultEncoding := by
    simp [Setting.readEncoding, Setting.readText, ofLabel_label, bind, Except.bind,
      Except.mapError]
  have policy : ProbePolicy.ofSetting .toml (.text settings.probePolicy.label) =
      .ok settings.probePolicy := policy_ofLabel_label _
  simp [TextSettings.ofSetting, Setting.readRecord, TextSettings.put, encoding, policy,
    Setting.readFlag, bind, Except.bind, pure, Except.pure]

/-- The members are read as the configuration that they were written from. -/
theorem readRecord_members (config : Config) :
    (Setting.record (Members.toSettings config.members)).readRecord .toml ["text", "log"] put {} =
      .ok config := by
  have text : put {} "text" (.record
      [("default_encoding", .text config.text.defaultEncoding.label),
        ("keep_existing_bom", .flag config.text.keepExistingSignature),
        ("probe_policy", .text config.text.probePolicy.label)]) =
      .ok { text := config.text } := by
    simp [put, ofSetting_text, bind, Except.bind]
  have log : put { text := config.text } "log" (.record [("level", .text config.logLevel)]) =
      .ok config := rfl
  simp [members, Members.toSettings, Value.toSetting, Setting.readRecord, text, log, bind,
    Except.bind, pure, Except.pure]

/-- A configuration that was written is read as itself, if it is valid, and otherwise
refused for what is wrong with it. -/
theorem ofToml_toToml (config : Config) :
    ofToml config.toToml = config.validate.map fun _ => config := by
  unfold ofToml
  rw [read_toToml]
  dsimp only
  rw [readRecord_members]
  rfl

end Config

/-- A configuration is valid, or it is its log level that has no meaning. -/
theorem Config.validate_eq (config : Config) :
    config.validate = .ok () ∨ config.validate = .error (.unknownLevel config.logLevel) := by
  unfold validate logFilter
  cases LogFilter.ofLevel config.logLevel with
  | some filter => exact .inl rfl
  | none => exact .inr rfl

/-- Every configuration is written as a document with all of its settings, the log level
character by character.  If the configuration is valid, that document is read as the same
configuration and no other; if it is not, reading fails as the validation does, which is
for its log level and never for the document. -/
theorem config_survives_writing (config : Config) :
    Toml.read config.toToml = some config.members ∧
    (∀ read, Config.ofToml config.toToml = .ok read ↔ read = config ∧ config.validate = .ok ()) ∧
    (∀ failure, Config.ofToml config.toToml = .error failure ↔
      config.validate = .error failure) ∧
    (config.validate = .ok () ∨
      config.validate = .error (.unknownLevel config.logLevel)) := by
  refine ⟨config.read_toToml, ?_, ?_, config.validate_eq⟩
  · intro read
    rw [config.ofToml_toToml]
    cases config.validate with
    | error failure => simp [Except.map]
    | ok done => simp [Except.map, eq_comm]
  · intro failure
    rw [config.ofToml_toToml]
    cases config.validate with
    | error reason => simp [Except.map]
    | ok done => simp [Except.map]

end Bytemark
