/-
Module: Bytemark.Proofs.FileWriting
Purpose: What a write cursor does to its file, whether it appends or not.
Trusted boundary: none
Main exports: FileSystem.octets?, FileSystem.Regular, FileSystem.create_of_regular,
  WriteCursor.anew, WriteCursor.openFile_anew, WriteCursor.openFile_of_file,
  WriteCursor.openFile_append, WriteCursor.wrote, WriteCursor.write_of_file
-/
import Bytemark.Files.WriteCursor
import Bytemark.Proofs.FileTree

namespace Bytemark

namespace FileSystem

/-- The octets of the file at a path, if there is one. -/
def octets? (files : FileSystem) (path : String) : Option Octets :=
  match files.find path with
  | .ok (_, .file id) => some (files.content id)
  | _ => none

theorem octets_of_file {files : FileSystem} {path : String} {location : Location}
    {id : FileId} (found : files.find path = .ok (location, .file id)) :
    files.octets? path = some (files.content id) := by
  rw [octets?, found]

theorem octets_of_missing {files : FileSystem} {path : String}
    (missing : ∀ reached, files.find path ≠ .ok reached) : files.octets? path = none := by
  cases found : files.find path with
  | error cause => rw [octets?, found]
  | ok reached => exact absurd found (missing reached)

theorem octets_of_not_exists {files : FileSystem} {path : String}
    (missing : files.exists? path = false) : files.octets? path = none := by
  apply octets_of_missing
  intro reached found
  cases (exists_of_find found).symm.trans missing

/-- Nothing is at the path, or a file is. -/
def Regular (files : FileSystem) (path : String) : Prop :=
  ∀ location node, files.find path = .ok (location, node) → ∃ id, node = .file id

theorem Regular.find_of_exists {files : FileSystem} {path : String} (regular : files.Regular path)
    (present : files.exists? path = true) :
    ∃ location id, files.find path = .ok (location, .file id) := by
  cases found : files.find path with
  | error cause =>
      rw [exists?, found] at present
      cases present
  | ok reached =>
      rcases reached with ⟨location, node⟩
      obtain ⟨id, rfl⟩ := regular location node found
      exact ⟨location, id, rfl⟩

theorem regular_of_missing {files : FileSystem} {path : String}
    (missing : files.exists? path = false) : files.Regular path := by
  intro location node found
  cases (exists_of_find found).symm.trans missing

theorem regular_of_file {files : FileSystem} {path : String} {location : Location} {id : FileId}
    (found : files.find path = .ok (location, .file id)) : files.Regular path := by
  intro place node reached
  cases found.symm.trans reached
  exact ⟨id, rfl⟩

/-- A name that is free, or that of a file, leads to an empty file once it was
opened from its start. -/
theorem create_of_regular {files created : FileSystem} {path : String} {handle : WriteHandle}
    (wellFormed : files.WellFormed) (regular : files.Regular path)
    (made : files.create path = .ok (handle, created)) :
    ∃ location id, created.find path = .ok (location, .file id) ∧
      handle = ⟨.file id, .overwrite 0⟩ ∧ created.content id = [] ∧ created.WellFormed := by
  have kept := wellFormed.create made
  obtain ⟨location, ⟨id, found, rfl, rfl⟩ | ⟨found, -, -⟩ | ⟨-, rfl, rfl, found⟩⟩ :=
    create_eq_ok made
  · refine ⟨location, id, ?_, rfl, ?_, kept⟩
    · rw [(sameNames_setContent files id .empty).find]
      exact found
    · rw [content_setContent (lt_of_find wellFormed found), Content.octets_empty]
  · obtain ⟨id, impossible⟩ := regular _ _ found
    cases impossible
  · exact ⟨location, _, found, rfl, content_withFile files location, kept⟩

end FileSystem

namespace WriteCursor

open FileSystem

/-- The cursor behind the signature of a file that was just begun. -/
def anew (id : FileId) (encoding : Encoding) : WriteCursor :=
  ⟨⟨.file id, .overwrite encoding.signatureOctets.length⟩, encoding,
    encoding.signatureOctets.length, !encoding.signatureOctets.isEmpty⟩

/-- A file that is empty once it was opened from its start gets the signature. -/
theorem openFile_of_create {files created : FileSystem} {path : String} {id : FileId}
    (made : files.create path = .ok (⟨.file id, .overwrite 0⟩, created))
    (present : id < created.contents.length) (empty : created.content id = [])
    (encoding : Encoding) :
    ∃ after, openFile files path encoding false = (.ok (anew id encoding), after) ∧
      after.content id = encoding.signatureOctets ∧ SameNames created after := by
  have within : (WriteMode.overwrite 0).Within (created.content id) := Nat.zero_le _
  obtain ⟨after, wrote, content, names⟩ :=
    FileSystem.write_of_file present within encoding.signatureOctets
  rw [empty, WriteMode.put, List.take_nil, List.drop_nil, List.nil_append,
    List.append_nil] at content
  rw [WriteMode.advance, Nat.zero_add] at wrote
  refine ⟨after, ?_, content, names⟩
  rw [openFile, Bool.false_and, if_neg Bool.false_ne_true, made]
  simp only [wrote]
  rfl

/-- A file that is opened anew holds the signature, and the cursor stands behind
it; if it cannot be opened, nothing changes. -/
theorem openFile_anew {files : FileSystem} {path : String} (wellFormed : files.WellFormed)
    (regular : files.Regular path) (encoding : Encoding) :
    (∃ cause, openFile files path encoding false = (.error cause, files)) ∨
      ∃ location id after, openFile files path encoding false = (.ok (anew id encoding), after) ∧
        after.find path = .ok (location, .file id) ∧ after.WellFormed ∧
        after.content id = encoding.signatureOctets := by
  cases made : files.create path with
  | error cause =>
      refine .inl ⟨cause, ?_⟩
      rw [openFile, Bool.false_and, if_neg Bool.false_ne_true, made]
  | ok pair =>
      rcases pair with ⟨handle, created⟩
      obtain ⟨location, id, found, rfl, empty, kept⟩ :=
        create_of_regular wellFormed regular made
      obtain ⟨after, opens, content, names⟩ :=
        openFile_of_create made (lt_of_find kept found) empty encoding
      refine .inr ⟨location, id, after, opens, ?_, kept.of_sameNames names, content⟩
      rw [names.find]
      exact found

/-- A file that is there is always opened anew, under the name that it has. -/
theorem openFile_of_file {files : FileSystem} {path : String} {location : Location}
    {id : FileId} (wellFormed : files.WellFormed)
    (found : files.find path = .ok (location, .file id)) (encoding : Encoding) :
    ∃ after, openFile files path encoding false = (.ok (anew id encoding), after) ∧
      after.content id = encoding.signatureOctets ∧ SameNames files after := by
  have present := lt_of_find wellFormed found
  have names := sameNames_setContent files id .empty
  obtain ⟨after, opens, content, names'⟩ := openFile_of_create (create_of_file found)
    (names.count ▸ present) (content_setContent present .empty) encoding
  exact ⟨after, opens, content, names.trans names'⟩

/-- A file that is there is opened for appending as it is. -/
theorem openFile_append {files : FileSystem} {path : String} {location : Location} {id : FileId}
    (found : files.find path = .ok (location, .file id)) (encoding : Encoding) :
    openFile files path encoding true =
      (.ok ⟨⟨.file id, .append⟩, encoding, 0, false⟩, files) := by
  have opens : files.openAppend path = .ok ⟨.file id, .append⟩ := by
    rw [FileSystem.openAppend, found]
    rfl
  rw [openFile, exists_of_find found, opens]
  rfl

/-- The cursor behind octets that were written through it. -/
def wrote (cursor : WriteCursor) (octets : Octets) : WriteCursor :=
  { cursor with
    handle := ⟨cursor.handle.node, cursor.handle.mode.advance octets.length⟩
    octetsWritten := cursor.octetsWritten + octets.length }

/-- Writing through a cursor of a file never fails. -/
theorem write_of_file {files : FileSystem} {cursor : WriteCursor} {id : FileId}
    {mode : WriteMode} (handle : cursor.handle = ⟨.file id, mode⟩)
    (present : id < files.contents.length) (within : mode.Within (files.content id))
    (octets : Octets) :
    ∃ after, cursor.write files octets = (.ok (), cursor.wrote octets, after) ∧
      after.content id = mode.put (files.content id) octets ∧ SameNames files after := by
  obtain ⟨after, writes, content, names⟩ := FileSystem.write_of_file present within octets
  refine ⟨after, ?_, content, names⟩
  rw [write, wrote, handle, writes]

end WriteCursor

end Bytemark
