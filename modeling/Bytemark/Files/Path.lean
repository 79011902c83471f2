/-
Module: Bytemark.Files.Path
Purpose: Paths as texts: the names they go through and the paths above them.
Trusted boundary: none
Main exports: Path.names, Path.isAbsolute, Path.isSlashed, Path.check, Path.stems,
  Path.parent?, Path.join
-/
import Bytemark.Stream.IoError

namespace Bytemark

namespace Path

/-!
A path keeps the spelling it was given in, since messages show it.  What it
means is the row of names between its slashes.
-/

/-- Splits at every slash; empty names between slashes are kept. -/
def splitFrom (name : List Char) : List Char → List String
  | [] => [String.ofList name.reverse]
  | c :: rest =>
      if c == '/' then String.ofList name.reverse :: splitFrom [] rest
      else splitFrom (c :: name) rest

/-- The names on a path, first to last. -/
def names (path : String) : List String :=
  (splitFrom [] path.toList).filter fun name => !name.isEmpty

/-- Whether the path starts at the root. -/
def isAbsolute (path : String) : Bool := path.toList.head? == some '/'

/-- Whether the path ends with a slash and so asks for a directory. -/
def isSlashed (path : String) : Bool := path.toList.getLast? == some '/'

/-- Octets in the longest name that the system takes. -/
def longestName : Nat := 255

/-- Octets in the longest path that the system takes. -/
def longestPath : Nat := 4095

/-- Refuses paths that the system does not even look at. -/
def check (path : String) : Except IoError Unit :=
  if path.toList.contains (Char.ofNat 0) then .error .nulInPath
  else if path.isEmpty then .error .notFound
  else if longestPath < path.utf8ByteSize then .error .nameTooLong
  else .ok ()

/-- The path of a row of names. -/
def ofNames (absolute : Bool) (names : List String) : String :=
  (if absolute then "/" else "") ++ "/".intercalate names

/-!
The path above another keeps its spelling too, and the system counts every
octet of it.  It ends with a name: slashes and lone dots behind that name are
left out, those before it stay.  What a path starts with, the root or the first
name of a relative path, counts even if it is a dot.
-/

/-- What stands between the slashes of the beginning of a path, last first. -/
abbrev Stem := List String

/-- Whether a piece between slashes leads nowhere. -/
def isIdle (piece : String) : Bool := piece.isEmpty || piece == "."

/-- The beginnings of a path that end with a name or are its start. -/
def stemsFrom : Stem → List Stem
  | [] => []
  | [start] => [[start]]
  | piece :: above =>
      if isIdle piece then stemsFrom above else (piece :: above) :: stemsFrom above

/-- The path as far as its last name, the last but one, and so on to its start. -/
def stems (path : String) : List Stem := stemsFrom (splitFrom [] path.toList).reverse

/-- The spelling of a stem.  The stem of an empty piece alone is the root. -/
def ofStem (stem : Stem) : String :=
  if stem == [""] then "/" else "/".intercalate stem.reverse

/-- The path without its last name; none for the root and for the empty path. -/
def parent? (path : String) : Option String :=
  match stems path with
  | _ :: above :: _ => some (ofStem above)
  | _ => if path.isEmpty || isAbsolute path then none else some ""

/-- The path of a name inside a directory. -/
def join (directory name : String) : String :=
  if isAbsolute name || directory.isEmpty then name
  else if isSlashed directory then directory ++ name
  else directory ++ "/" ++ name

end Path

end Bytemark
