/-
Module: Bytemark.Files.Location
Purpose: Places in a tree of files.
Trusted boundary: none
Main exports: Location, Location.root, Location.child, Location.parent, Location.ofNames,
  Location.path
-/
import Bytemark.Files.Path

namespace Bytemark

/-!
A location is the row of names that lead from the root to a node, the last name
first, since trees are walked by adding and taking away last names.  Locations
in a tree differ by their depth more often than by a name, so the depth is kept
beside the names and compared first.
-/

/-- A place in a tree of files. -/
structure Location where
  /-- How many names lead here. -/
  depth : Nat
  /-- The names that lead here, last first. -/
  names : List String
  depth_eq : depth = names.length
deriving Repr, DecidableEq

namespace Location

/-- The place of a name in a directory. -/
def child (directory : Location) (name : String) : Location :=
  ⟨directory.depth + 1, name :: directory.names, by simp [directory.depth_eq]⟩

/-- The directory that holds a place; the root holds itself. -/
def parent (location : Location) : Location :=
  ⟨location.depth - 1, location.names.tail, by simp [location.depth_eq]⟩

/-- The place to which a row of names leads, first to last. -/
def ofNames (names : List String) : Location :=
  ⟨names.length, names.reverse, by simp⟩

/-- Where all names start. -/
def root : Location := ofNames []

instance : Inhabited Location := ⟨root⟩

/-- The path from the root. -/
def path (location : Location) : String :=
  Path.ofNames true location.names.reverse

end Location

end Bytemark
