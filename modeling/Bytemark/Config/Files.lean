/-
Module: Bytemark.Config.Files
Purpose: Where configurations are looked for, and loading and saving them.
Trusted boundary: none
Main exports: Config.searchPaths, Config.ofFile, Config.loadFrom, Config.load, Config.save
-/
import Bytemark.Config
import Bytemark.Files.FileSystem

namespace Bytemark

namespace Config

/-- Where a configuration is looked for, first place first: below the home
directory if there is one, and in the working directory. -/
def searchPaths (home : Option String) (workingDirectory : String) : List String :=
  let personal := match home with
    | some home =>
        [Path.join (Path.join home ".bomtext") "config.toml",
          Path.join (Path.join (Path.join home ".config") "bomtext") "config.toml"]
    | none => []
  personal ++ [Path.join workingDirectory "bomtext.toml"]

/-- Loads a configuration from a file. -/
def ofFile (files : FileSystem) (path : String) : Except ConfigError Config := do
  let text ← (files.readText path).mapError .io
  ofToml text

/-- Loads the first configuration that exists.  One that exists and is not
valid is an error; without any the defaults hold. -/
def loadFrom (files : FileSystem) (paths : List String) : Except ConfigError Config :=
  match paths.find? files.exists? with
  | some path => ofFile files path
  | none => .ok {}

/-- Loads the configuration of the user and the working directory. -/
def load (files : FileSystem) (home : Option String) : Except ConfigError Config :=
  loadFrom files (searchPaths home files.workingDirectory.path)

/-- Writes a configuration to a file, in a directory that is made if it is
missing. -/
def save (config : Config) (files : FileSystem) (path : String) :
    Except ConfigError Unit × FileSystem :=
  match files.createParent path with
  | (.error cause, files) => (.error (.io cause), files)
  | (.ok (), files) =>
      let (result, files) := files.writeFile path (Codec.Utf8.encodeText config.toToml.toList)
      (result.mapError .io, files)

end Config

end Bytemark
