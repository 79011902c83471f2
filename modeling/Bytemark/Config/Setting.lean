/-
Module: Bytemark.Config.Setting
Purpose: Reading settings from the values of a document.
Trusted boundary: none
Main exports: Setting, Dialect, Unfit, Setting.readRecord, TextSettings.ofSetting,
  Toml.Value.toSetting
-/
import Bytemark.Encoding.Label
import Bytemark.TextSettings
import Bytemark.Toml.Value

namespace Bytemark

/-!
Settings can stand in TOML and in JSON documents.  Both are seen as one kind of
value, which keeps only what a setting can be read from; the few points in
which the formats differ are a `Dialect`.

The members of a record are read in the order of the document, and the first
one that does not fit is the one reported.
-/

/-- A value of a document, as far as settings can be read from it. -/
inductive Setting where
  | nothing
  | flag (value : Bool)
  | text (value : String)
  /-- A date.  It passes for a record none of whose members is known. -/
  | moment
  /-- A number; no setting is one. -/
  | other
  | list (items : List Setting)
  | record (members : List (String × Setting))
deriving Repr, Inhabited

/-- What the formats of documents treat differently. -/
structure Dialect where
  /-- Whether a record that is written as a list may have items that belong to
  no member. -/
  allowsSurplus : Bool
  /-- What may stand behind a choice that is written as a record. -/
  isEmpty : Setting → Bool

namespace Dialect

/-- In TOML, an empty table or array stands behind a choice. -/
def toml : Dialect :=
  { allowsSurplus := true
    isEmpty := fun setting => match setting with
      | .list [] | .record [] => true
      | _ => false }

/-- In JSON, null stands behind a choice. -/
def json : Dialect :=
  { allowsSurplus := false
    isEmpty := fun setting => match setting with
      | .nothing => true
      | _ => false }

end Dialect

/-- Why a value is no setting. -/
inductive Unfit where
  | unknownEncoding (refusal : UnknownLabel)
  | unknownPolicy (label : String)
  /-- The value is of another type. -/
  | mistyped
deriving Repr, Inhabited, DecidableEq

/-- The wording of a reason. -/
def Unfit.message : Unfit → String
  | unknownEncoding refusal => refusal.message
  | unknownPolicy label =>
      s!"unknown variant \x60{label}\x60, expected \x60fail\x60 or \x60use-default\x60"
  | mistyped => "the value is of another type"

namespace Setting

variable {α : Type}

/-- Reads a record: its members by their names, or a list by the positions of
the names.  Members with other names are left to `put`. -/
def readRecord (dialect : Dialect) (names : List String)
    (put : α → String → Setting → Except Unfit α) (start : α) :
    Setting → Except Unfit α
  | .record members => members.foldlM (fun a (name, setting) => put a name setting) start
  | .moment => .ok start
  | .list items => do
      let a ← (names.zip items).foldlM (fun a (name, setting) => put a name setting) start
      if !dialect.allowsSurplus && names.length < items.length then .error .mistyped
      else .ok a
  | _ => .error .mistyped

/-- Reads a text. -/
def readText : Setting → Except Unfit String
  | .text value => .ok value
  | _ => .error .mistyped

/-- Reads a flag. -/
def readFlag : Setting → Except Unfit Bool
  | .flag value => .ok value
  | _ => .error .mistyped

/-- Reads an encoding from its label. -/
def readEncoding (setting : Setting) : Except Unfit Encoding := do
  let label ← setting.readText
  (Encoding.ofLabel label).mapError .unknownEncoding

end Setting

namespace ProbePolicy

/-- The policy with this label. -/
def ofLabel (label : String) : Except Unfit ProbePolicy :=
  match [ProbePolicy.fail, .useDefault].find? fun policy => policy.label == label with
  | some policy => .ok policy
  | none => .error (.unknownPolicy label)

/-- Reads a policy: its label, or a record whose one member has this name. -/
def ofSetting (dialect : Dialect) : Setting → Except Unfit ProbePolicy
  | .text label => ofLabel label
  | .record [(label, content)] => do
      let policy ← ofLabel label
      if dialect.isEmpty content then .ok policy else .error .mistyped
  | _ => .error .mistyped

end ProbePolicy

namespace TextSettings

/-- The names of the members of a record of text settings. -/
def names : List String := ["default_encoding", "keep_existing_bom", "probe_policy"]

/-- Takes one member over. -/
def put (dialect : Dialect) (settings : TextSettings) (name : String) (setting : Setting) :
    Except Unfit TextSettings :=
  if name == "default_encoding" then do
    let defaultEncoding ← setting.readEncoding
    .ok { settings with defaultEncoding }
  else if name == "keep_existing_bom" then do
    let keepExistingSignature ← setting.readFlag
    .ok { settings with keepExistingSignature }
  else if name == "probe_policy" then do
    let probePolicy ← ProbePolicy.ofSetting dialect setting
    .ok { settings with probePolicy }
  else .ok settings

/-- Reads text settings; members that are missing keep their defaults. -/
def ofSetting (dialect : Dialect) (setting : Setting) : Except Unfit TextSettings :=
  setting.readRecord dialect names (put dialect) {}

end TextSettings

namespace Toml

mutual

/-- What settings can be read from in a value. -/
def Value.toSetting : Value → Setting
  | .string text => .text text
  | .integer _ => .other
  | .float _ => .other
  | .boolean value => .flag value
  | .date _ => .moment
  | .array items => .list (Value.toSettings items)
  | .table _ members => .record (Members.toSettings members)
  | .tables rows => .list (Members.rowSettings rows).reverse

/-- What settings can be read from in the items of an array. -/
def Value.toSettings : List Value → List Setting
  | [] => []
  | item :: rest => item.toSetting :: Value.toSettings rest

/-- What settings can be read from in the members of a table. -/
def Members.toSettings : List (String × Value) → List (String × Setting)
  | [] => []
  | (name, value) :: rest => (name, value.toSetting) :: Members.toSettings rest

/-- What settings can be read from in a row of tables. -/
def Members.rowSettings : List (List (String × Value)) → List Setting
  | [] => []
  | row :: rest => .record (Members.toSettings row) :: Members.rowSettings rest

end

end Toml

end Bytemark
