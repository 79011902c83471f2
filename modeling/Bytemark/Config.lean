/-
Module: Bytemark.Config
Purpose: The configuration of the program, as a value and as a TOML text.
Trusted boundary: none
Main exports: Config, ConfigError, ConfigError.message, Config.validate, Config.ofToml,
  Config.toToml
-/
import Bytemark.Config.LogFilter
import Bytemark.Config.Setting
import Bytemark.Toml.Document

namespace Bytemark

/-- A configuration.  The log level is kept as it was written, known or not. -/
structure Config where
  text : TextSettings := {}
  logLevel : String := "info"
deriving Repr, Inhabited, DecidableEq

/-- Why there is no configuration. -/
inductive ConfigError where
  /-- A file could not be read or written. -/
  | io (cause : IoError)
  /-- The text is not TOML. -/
  | notToml
  /-- The text is TOML, but a value in it does not fit. -/
  | unfit (reason : Unfit)
  /-- The log level has no meaning. -/
  | unknownLevel (level : String)
deriving Repr, Inhabited, DecidableEq

/-- The wording of an error. -/
def ConfigError.message : ConfigError → String
  | io cause => s!"I/O error: {cause.message}"
  | notToml => "TOML parsing error: the text is not a document"
  | unfit reason => s!"TOML parsing error: {reason.message}"
  | unknownLevel level =>
      s!"Configuration validation error: Unknown log level '{level}' " ++
        "(expected off, error, warn, info, debug or trace)"

namespace Config

/-- The filter that the log level names. -/
def logFilter (config : Config) : Except ConfigError LogFilter :=
  match LogFilter.ofLevel config.logLevel with
  | some filter => .ok filter
  | none => .error (.unknownLevel config.logLevel)

/-- Refuses a configuration whose log level has no meaning. -/
def validate (config : Config) : Except ConfigError Unit := do
  let _ ← config.logFilter
  .ok ()

/-! ## Reading -/

/-- Takes one member of the log settings over. -/
def putLog (level name : String) (setting : Setting) : Except Unfit String :=
  if name == "level" then setting.readText else .ok level

/-- Takes one member of the document over. -/
def put (config : Config) (name : String) (setting : Setting) : Except Unfit Config :=
  if name == "text" then do
    let text ← TextSettings.ofSetting .toml setting
    .ok { config with text }
  else if name == "log" then do
    let logLevel ← setting.readRecord .toml ["level"] putLog "info"
    .ok { config with logLevel }
  else .ok config

/-- Reads a configuration from a TOML text.  What is missing has its default;
a text that is not TOML is refused before any value is looked at, and all
values have to fit before the log level is. -/
def ofToml (text : String) : Except ConfigError Config :=
  match Toml.read text with
  | none => .error .notToml
  | some members => do
      let setting : Setting := .record (Toml.Members.toSettings members)
      let config ← (setting.readRecord .toml ["text", "log"] put {}).mapError .unfit
      config.validate
      .ok config

/-! ## Writing -/

/-- A key and the text of its value, on a line of their own. -/
def pairLine (name value : String) : String := name ++ " = " ++ value ++ "\n"

/-- A TOML string with this value. -/
def quoted (value : String) : String := String.ofList (Toml.written value.toList)

/-- The configuration as a TOML text with every setting in it. -/
def toToml (config : Config) : String :=
  "[text]\n" ++
    pairLine "default_encoding" (quoted config.text.defaultEncoding.label) ++
    pairLine "keep_existing_bom" (if config.text.keepExistingSignature then "true" else "false") ++
    pairLine "probe_policy" (quoted config.text.probePolicy.label) ++
    "\n[log]\n" ++
    pairLine "level" (quoted config.logLevel)

end Config

end Bytemark
