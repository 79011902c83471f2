/-
Module: Bytemark.Main
Purpose: The program: it fetches the files a run can touch, runs, and puts back what changed.
Trusted boundary: the operating system, through the standard library
Main exports: main
-/
import Bytemark.CommandLine

namespace Bytemark

/-!
A run is a function on a tree of files.  Here the tree is filled with what is
found at the few paths that the arguments can lead to, and after the run every
one of these files whose content has changed is written.
-/

namespace CommandLine

/-- Paths that a run on these arguments can read or write. -/
def touchedPaths (home : Option String) (workingDirectory : String)
    (arguments : List String) : List String :=
  match Invocation.ofArguments arguments with
  | .error _ => []
  | .ok invocation =>
      let configs := match invocation.config with
        | some path => [path]
        | none => Config.searchPaths home workingDirectory
      configs ++ [invocation.command.file]

/-- The tree with what is found at a path. -/
def fetch (files : FileSystem) (path : String) : IO FileSystem := do
  if files.exists? path then return files
  let place := (← IO.currentDir) / path
  if ← place.isDir then return (files.createParent (Path.join path "inside")).2
  if ← place.pathExists then
    let content ← IO.FS.readBinFile place
    return ((files.createParent path).2.writeFile path content.toList).2
  if ← (place.parent.getD place).isDir then return (files.createParent path).2
  return files

/-- Writes a file if a run has changed it. -/
def putBack (before after : FileSystem) (path : String) : IO Unit := do
  match after.readFile path with
  | .error _ => return ()
  | .ok octets =>
      if (before.readFile path).toOption != some octets then
        IO.FS.writeBinFile ((← IO.currentDir) / path) (ByteArray.mk octets.toArray)

end CommandLine

end Bytemark

open Bytemark in
/-- Runs the program on the files of the machine. -/
def main (arguments : List String) : IO UInt32 := do
  let workingDirectory := toString (← IO.currentDir)
  let home ← IO.getEnv "HOME"
  let paths := CommandLine.touchedPaths home workingDirectory arguments
  let empty := FileSystem.empty (Path.names workingDirectory)
  let before ← paths.foldlM CommandLine.fetch empty
  let report := CommandLine.run before home arguments
  paths.forM (CommandLine.putBack before report.files)
  (← IO.getStdout).putStr report.output
  let errors ← IO.getStderr
  report.log.forM fun entry =>
    errors.putStrLn s!"{entry.level.traceName} {Logger.traceTarget}: {entry.message}"
  errors.putStr report.complaint
  return UInt32.ofNat report.code
