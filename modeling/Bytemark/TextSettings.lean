/-
Module: Bytemark.TextSettings
Purpose: How text files are read and written.
Trusted boundary: none
Main exports: TextSettings, TextSettings.resolver
-/
import Bytemark.Resolver

namespace Bytemark

/-- Settings shared by sessions and scans. -/
structure TextSettings where
  /-- The encoding of files without a signature, and of new files. -/
  defaultEncoding : Encoding := default
  /-- Whether overwriting a file keeps the encoding of its signature. -/
  keepExistingSignature : Bool := true
  /-- What to do when the start of a file cannot be read. -/
  probePolicy : ProbePolicy := .fail
deriving Repr, Inhabited, DecidableEq

/-- Reads and writes resolve encodings in the same way. -/
def TextSettings.resolver (settings : TextSettings) (logger : Logger) : Resolver :=
  { defaultEncoding := settings.defaultEncoding
    policy := settings.probePolicy
    logger }

end Bytemark
