/-
Module: Bytemark.Files.WriteCursor
Purpose: Writing encoded octets to an open file.
Trusted boundary: none
Main exports: WriteCursor, WriteCursor.openFile, WriteCursor.write
-/
import Bytemark.Files.FileSystem

namespace Bytemark

/-- An open file that encoded text is written to. -/
structure WriteCursor where
  handle : WriteHandle
  encoding : Encoding
  /-- Octets written through this cursor, the signature included. -/
  octetsWritten : Nat
  /-- Whether the file was opened empty and begun with a signature. -/
  wroteSignature : Bool
deriving Repr, Inhabited, DecidableEq

namespace WriteCursor

/-- Opens a file.  What exists is kept when it is to be appended to; in every
other case the file starts anew with the signature of the encoding. -/
def openFile (files : FileSystem) (path : String) (encoding : Encoding) (append : Bool) :
    Except IoError WriteCursor × FileSystem :=
  if append && files.exists? path then
    match files.openAppend path with
    | .error cause => (.error cause, files)
    | .ok handle => (.ok ⟨handle, encoding, 0, false⟩, files)
  else
    match files.create path with
    | .error cause => (.error cause, files)
    | .ok (handle, created) =>
        let signature := encoding.signatureOctets
        match created.write handle signature with
        | (.error cause, _, after) => (.error cause, after)
        | (.ok (), written, after) =>
            (.ok ⟨written, encoding, signature.length, !signature.isEmpty⟩, after)

/-- Writes octets that are already encoded.  A refused write counts nothing. -/
def write (cursor : WriteCursor) (files : FileSystem) (octets : Octets) :
    Except IoError Unit × WriteCursor × FileSystem :=
  match files.write cursor.handle octets with
  | (.error cause, handle, after) => (.error cause, { cursor with handle }, after)
  | (.ok (), handle, after) =>
      (.ok (),
        { cursor with handle, octetsWritten := cursor.octetsWritten + octets.length }, after)

end WriteCursor

end Bytemark
